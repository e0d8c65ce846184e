import BearerGate.Net.Url
import BearerGate.Proofs.Net.Host
import BearerGate.Proofs.Net.Url.Path
import BearerGate.Proofs.Outcome
import Mathlib.Data.List.TakeWhile

/-!
# Addresses as they are kept

An address that has been read has one of four forms (`Url.Kept`): it has a host in front of its
path, it is that of a file, it has a path of segments without a host, or a path that is not made of
segments. In each of them nothing is left to encode, to follow or to put in lower case
(`Url.kept_of_parse`).
-/

namespace BearerGate.Url

open UrlPath (dropSlash)

/-! ## The parts of an address -/

/-- A scheme in lower case. -/
structure IsScheme (scheme : String) : Prop where
  begins : ∃ c ∈ scheme.toList.head?, 'a' ≤ c ∧ c ≤ 'z'
  chars : ∀ c ∈ scheme.toList, isSchemeChar c = true

/-- What stands in front of the path of an address with a scheme. -/
structure Authority.Kept (scheme : String) (parts : Authority) : Prop where
  user : ∀ c ∈ parts.user.toList, Percent.inUserInfo c = false
  password : ∀ c ∈ parts.password.toList, Percent.inUserInfo c = false
  host : parts.host.Kept (isSpecial scheme)
  /-- Neither a user nor a port goes without a host. -/
  unnamed : parts.host = .name "" →
    parts.user = "" ∧ parts.password = "" ∧ parts.port = none
  port : ∀ n ∈ parts.port, n ≤ 65535 ∧ impliedPort? scheme ≠ some n

/-- The host of a file: the machine itself, or another one. -/
def IsFileHost (host : Host) : Prop :=
  host = ownHost ∨ host.Kept true ∧ host ≠ .name "localhost"

/-- An address as it is kept. -/
inductive Kept : Url → Prop
  | hosted {scheme : String} {parts : Authority} {names : List String}
    {query fragment : Option String} (lower : IsScheme scheme) (other : scheme ≠ "file")
    (front : parts.Kept scheme) (settled : ∀ name ∈ names, UrlPath.Settled (isSpecial scheme) name)
    (rooted : isSpecial scheme = true → names ≠ []) :
    Kept ⟨scheme, parts.user, parts.password, some parts.host, parts.port, .segments names, query,
      fragment⟩
  | file {host : Host} {names : List String} {query fragment : Option String}
    (place : IsFileHost host) (encoded : ∀ name ∈ names, UrlPath.Encoded true name)
    (rooted : names ≠ []) (first : names.head? = some "" → names = [""]) :
    Kept ⟨"file", "", "", some host, none, .segments names, query, fragment⟩
  | rooted {scheme : String} {names : List String} {query fragment : Option String}
    (lower : IsScheme scheme) (other : isSpecial scheme = false)
    (settled : ∀ name ∈ names, UrlPath.Settled false name) (rooted : names ≠ []) :
    Kept ⟨scheme, "", "", none, none, .segments names, query, fragment⟩
  | taken {scheme : String} {name : List Char} {query fragment : Option String}
    (lower : IsScheme scheme) (other : isSpecial scheme = false)
    (plain : ∀ c ∈ name, Percent.isControl c = false) (whole : ∀ c ∈ name, endsPath c = false)
    (first : name.head? ≠ some '/') :
    Kept ⟨scheme, "", "", none, none, .opaquePath (String.ofList name), query, fragment⟩

theorem isSchemeChar_of_letter {c : Char} (low : 'a' ≤ c) (high : c ≤ 'z') :
    isSchemeChar c = true := by
  unfold isSchemeChar
  rw [decide_eq_true low, decide_eq_true high]
  rfl

theorem isScheme_of_scheme? {text rest : List Char} {scheme : String}
    (read : scheme? text = some (scheme, rest)) : IsScheme scheme := by
  unfold scheme? at read
  obtain ⟨⟨before, after⟩, -, read⟩ := Option.bind_eq_some_iff.mp read
  dsimp only at read
  split at read
  · next first more lowered =>
    split at read
    · next good =>
      simp only [Bool.and_eq_true, decide_eq_true_eq, List.all_eq_true] at good
      obtain ⟨⟨low, high⟩, chars⟩ := good
      obtain ⟨rfl, rfl⟩ := Prod.mk.inj (Option.some.inj read)
      constructor
      · rw [String.toList_ofList, lowered]
        exact ⟨first, rfl, low, high⟩
      · rw [String.toList_ofList, lowered]
        exact List.forall_mem_cons.mpr ⟨isSchemeChar_of_letter low high, chars⟩
    · cases read
  · cases read

/-! ## Users, hosts and ports -/

theorem portNumber_le {port n : Nat} {digits : List Char} (low : port ≤ 65535)
    (read : portNumber port digits = .ok n) : n ≤ 65535 := by
  induction digits generalizing port with
  | nil =>
    cases read
    exact low
  | cons c digits ih =>
    rw [portNumber] at read
    split at read
    · split at read
      · cases read
      · next fits => exact ih (Nat.not_lt.mp fits) read
    · cases read

/-- A port that is kept is a number of two bytes that the scheme does not imply. -/
theorem kept_of_port? {scheme : String} {text : List Char} {port : Option Nat}
    (read : port? scheme text = .ok port) :
    ∀ n ∈ port, n ≤ 65535 ∧ impliedPort? scheme ≠ some n := by
  unfold port? at read
  split at read
  · cases read
    nofun
  · cases read
    nofun
  · obtain ⟨number, digits, kept⟩ := bind_eq_ok_iff.mp read
    cases kept
    split
    · nofun
    · next other =>
      rintro n ⟨⟩
      exact ⟨portNumber_le (Nat.zero_le _) digits, other⟩

theorem inUserInfo_userAndPassword (text : List Char) :
    (∀ c ∈ (userAndPassword text).1.toList, Percent.inUserInfo c = false) ∧
      ∀ c ∈ (userAndPassword text).2.toList, Percent.inUserInfo c = false := by
  have encoded (part : List Char) :
      ∀ c ∈ (String.ofList (Percent.encode Percent.inUserInfo part)).toList,
        Percent.inUserInfo c = false := by
    rw [String.toList_ofList]
    exact fun c found => Percent.set_of_mem_encode Percent.inUserInfo_spares found
  unfold userAndPassword
  dsimp only
  split
  · next user password _ => exact ⟨encoded user, encoded password⟩
  · exact ⟨encoded text, fun _ absent => absurd absent List.not_mem_nil⟩

/-- The host of an address with a scheme. -/
def readHost (special : Bool) (text : List Char) : Except UrlFault Host :=
  if special then Host.parse text else Host.parseOpaque text

theorem authority_eq (scheme : String) (userInfo : Option (List Char))
    (hostText portText behind : List Char) :
    authority scheme userInfo hostText portText behind =
      (let (user, password) := userAndPassword (userInfo.getD [])
      if userInfo = some [] ∧ hostText = [] ∧ portText = [] ∧ behind ≠ [] then .error .emptyHost
      else if isSpecial scheme ∧ hostText = [] then .error .emptyHost
      else
        readHost (isSpecial scheme) hostText >>= fun host =>
          if hostText = [] ∧ (portText ≠ [] ∨ user ≠ "" ∨ password ≠ "") then .error .emptyHost
          else port? scheme portText >>= fun port => .ok ⟨user, password, host, port⟩) := by
  unfold authority readHost
  cases isSpecial scheme with
  | true => rfl
  | false => rfl

/-- The parts of an authority are read each by itself. -/
theorem authority_eq_ok_iff {scheme : String} {userInfo : Option (List Char)}
    {hostText portText behind : List Char} {parts : Authority} :
    authority scheme userInfo hostText portText behind = .ok parts ↔
      ¬ (userInfo = some [] ∧ hostText = [] ∧ portText = [] ∧ behind ≠ []) ∧
      ¬ (isSpecial scheme = true ∧ hostText = []) ∧
      userAndPassword (userInfo.getD []) = (parts.user, parts.password) ∧
      readHost (isSpecial scheme) hostText = .ok parts.host ∧
      ¬ (hostText = [] ∧ (portText ≠ [] ∨ parts.user ≠ "" ∨ parts.password ≠ "")) ∧
      port? scheme portText = .ok parts.port := by
  rw [authority_eq]
  obtain ⟨user, password⟩ := userAndPassword (userInfo.getD [])
  dsimp only
  constructor
  · intro read
    split at read
    · cases read
    · next lone =>
      split at read
      · cases read
      · next empty =>
        obtain ⟨host, named, read⟩ := bind_eq_ok_iff.mp read
        split at read
        · cases read
        · next alone =>
          obtain ⟨port, numbered, read⟩ := bind_eq_ok_iff.mp read
          cases read
          exact ⟨lone, empty, rfl, named, alone, numbered⟩
  · rintro ⟨lone, empty, info, named, alone, numbered⟩
    obtain ⟨rfl, rfl⟩ := Prod.mk.inj info
    rw [if_neg lone, if_neg empty]
    refine bind_eq_ok_iff.mpr ⟨_, named, ?_⟩
    rw [if_neg alone]
    exact bind_eq_ok_iff.mpr ⟨_, numbered, rfl⟩

theorem kept_of_readHost {special : Bool} {text : List Char} {host : Host}
    (read : readHost special text = .ok host) :
    host.Kept special ∧ (host = .name "" → text = []) := by
  cases special with
  | true =>
    have kept := Host.kept_of_parse read
    refine ⟨kept, ?_⟩
    rintro rfl
    exact absurd rfl kept.text_ne_nil
  | false =>
    obtain ⟨kept, empty⟩ := Host.kept_of_parseOpaque read
    exact ⟨kept, empty.mp⟩

theorem kept_of_authority {scheme : String} {userInfo : Option (List Char)}
    {hostText portText behind : List Char} {parts : Authority}
    (read : authority scheme userInfo hostText portText behind = .ok parts) :
    parts.Kept scheme := by
  obtain ⟨-, -, info, named, alone, numbered⟩ := authority_eq_ok_iff.mp read
  obtain ⟨user, password⟩ := inUserInfo_userAndPassword (userInfo.getD [])
  obtain ⟨host, empty⟩ := kept_of_readHost named
  rw [info] at user password
  refine ⟨user, password, host, ?_, kept_of_port? numbered⟩
  intro unnamed
  obtain ⟨noPort, noUser, noPassword⟩ : portText = [] ∧ parts.user = "" ∧ parts.password = "" := by
    have nothing := empty unnamed
    grind
  rw [noPort] at numbered
  exact ⟨noUser, noPassword, (Except.ok.inj numbered).symm⟩

/-! ## Reading -/

theorem breakAt_append {stop : Char → Bool} {front behind : List Char}
    (free : ∀ c ∈ front, stop c = false) (stops : ∀ c ∈ behind.head?, stop c = true) :
    breakAt stop (front ++ behind) = (front, behind) := by
  have passed : ∀ c ∈ front, (!stop c) = true := fun c found => by rw [free c found]; rfl
  have closed : behind.takeWhile (fun c => !stop c) = [] ∧
      behind.dropWhile (fun c => !stop c) = behind := by
    cases behind with
    | nil => exact ⟨rfl, rfl⟩
    | cons c behind =>
      have here : ¬ (!stop c) = true := by simp [stops c rfl]
      exact ⟨List.takeWhile_cons_of_neg here, List.dropWhile_cons_of_neg here⟩
  unfold breakAt
  rw [List.takeWhile_append_of_pos passed, List.dropWhile_append_of_pos passed, closed.1, closed.2,
    List.append_nil]

theorem breakAt_free {stop : Char → Bool} {text : List Char}
    (free : ∀ c ∈ text, stop c = false) : breakAt stop text = (text, []) := by
  have split : breakAt stop (text ++ []) = (text, []) := breakAt_append free nofun
  rwa [List.append_nil] at split

theorem mem_breakAt {stop : Char → Bool} {text : List Char} {c : Char}
    (found : c ∈ (breakAt stop text).1) : stop c = false := by
  simpa using List.mem_takeWhile_imp found

theorem kept_of_withAuthority {scheme : String} {text : List Char} {url : Url}
    (lower : IsScheme scheme) (other : scheme ≠ "file")
    (read : withAuthority scheme text = .ok url) : Kept url := by
  unfold withAuthority at read
  dsimp only at read
  obtain ⟨parts, front, read⟩ := bind_eq_ok_iff.mp read
  cases read
  split
  · next empty => exact .hosted lower other (kept_of_authority front) nofun (by simp [empty])
  · obtain ⟨names, path, rooted, settled⟩ := UrlPath.ofText_settled (isSpecial scheme) _
    rw [path]
    exact .hosted lower other (kept_of_authority front) settled fun _ => rooted

theorem isFileHost_of_fileHost {text behind : List Char} {host : Host}
    (read : fileHost text = .ok (host, behind)) : IsFileHost host := by
  unfold fileHost at read
  dsimp only at read
  split at read
  · split at read
    · cases read
      exact .inl rfl
    split at read
    · cases read
      exact .inl rfl
    · cases parsed : Host.parse (breakAt (endsAuthority true)
          (dropSlash true (dropSlash true text))).1 with
      | error fault =>
        rw [parsed] at read
        cases read
      | ok named =>
        rw [parsed] at read
        replace read := Except.ok.inj read
        dsimp only at read
        split at read
        · cases read
          exact .inl rfl
        · next other =>
          cases read
          exact .inr ⟨Host.kept_of_parse parsed, other⟩
  · cases read
    exact .inl rfl

theorem kept_of_ofFile {text : List Char} {url : Url} (read : ofFile text = .ok url) :
    Kept url := by
  unfold ofFile at read
  obtain ⟨⟨host, behind⟩, placed, read⟩ := bind_eq_ok_iff.mp read
  dsimp only at read
  cases read
  obtain ⟨names, path, rooted, first, encoded⟩ :=
    UrlPath.ofFileText_encoded (breakAt endsPath behind).1
  rw [path]
  refine .file ?_ encoded rooted first
  split
  · exact .inl rfl
  · exact isFileHost_of_fileHost placed

theorem kept_withoutAuthority {scheme : String} (lower : IsScheme scheme)
    (other : isSpecial scheme = false) (text : List Char) :
    Kept (withoutAuthority scheme text) := by
  unfold withoutAuthority
  dsimp only
  split
  · obtain ⟨names, path, rooted, settled⟩ := UrlPath.ofText_settled false (breakAt endsPath text).1
    rw [path]
    exact .rooted lower other settled rooted
  · next first =>
    refine .taken lower other ?_ ?_ ?_
    · exact fun c found => Percent.set_of_mem_encode Percent.isControl_spares found
    · intro c found
      rcases Percent.mem_encode found with ⟨member, -⟩ | byte
      · exact mem_breakAt member
      · have signs : ∀ c ∈ Percent.byteChars, endsPath c = false :=
          List.all_iff_forall_prop.mp (by decide)
        exact signs c byte
    · intro slash
      rcases Percent.head?_encode slash with same | sign
      · exact first same
      · cases sign

/-- Every address that is read is of one of the four forms. -/
theorem kept_of_parse {text : String} {url : Url} (read : parse text = .ok url) : Kept url := by
  unfold parse at read
  split at read
  · cases read
  · next scheme rest found =>
    have lower := isScheme_of_scheme? found
    split at read
    · exact kept_of_ofFile read
    · next other =>
      split at read
      · exact kept_of_withAuthority lower other read
      · next usual =>
        split at read
        · exact kept_of_withAuthority lower other read
        · cases read
          exact kept_withoutAuthority lower (Bool.eq_false_iff.mpr usual) rest

end BearerGate.Url
