import BearerGate.Proofs.Net.Url.Kept
import BearerGate.Proofs.Text.Digit

/-!
# What stands in front of a path

The user, the host and the port of an address are read as they are written
(`Url.Authority.authority_written`). The user ends at the at-sign, since no host and no port has
one, and the host ends at the first colon that is not between brackets. No character of them ends
what stands in front of a path (`Url.Authority.inFront_of_mem_written`).
-/

namespace BearerGate.Url

open UrlPath (isSlash)

/-! ## Users, hosts and ports -/

theorem splitUserInfo_of_not_mem {hostAndPort : List Char} (free : '@' ∉ hostAndPort) :
    splitUserInfo hostAndPort = (none, hostAndPort) := by
  unfold splitUserInfo
  rw [if_neg (by simpa using free)]

theorem splitUserInfo_append (userInfo : List Char) {hostAndPort : List Char}
    (free : '@' ∉ hostAndPort) :
    splitUserInfo (userInfo ++ '@' :: hostAndPort) = (some userInfo, hostAndPort) := by
  have sign : (userInfo ++ '@' :: hostAndPort).contains '@' = true := by simp
  have host : (userInfo ++ '@' :: hostAndPort).reverse.takeWhile (· ≠ '@') =
      hostAndPort.reverse := by
    have passed : ∀ c ∈ hostAndPort.reverse, decide (c ≠ '@') = true := by
      intro c found
      exact decide_eq_true fun same => free (same ▸ List.mem_reverse.mp found)
    rw [List.reverse_append, List.reverse_cons, List.append_assoc,
      List.takeWhile_append_of_pos passed, List.singleton_append,
      List.takeWhile_cons_of_neg (by decide), List.append_nil]
  unfold splitUserInfo
  rw [if_pos sign, host, List.reverse_reverse]
  have length : (userInfo ++ '@' :: hostAndPort).length - hostAndPort.length - 1 =
      userInfo.length := by
    rw [List.length_append, List.length_cons]
    omega
  dsimp only
  rw [length, List.take_left']
  rfl

theorem splitPort_name {name portText : List Char} (plain : ∀ c ∈ name, c ≠ ':' ∧ c ≠ '[')
    (port : ∀ c ∈ portText.head?, c = ':') :
    splitPort false (name ++ portText) = (name, portText) := by
  induction name with
  | nil =>
    cases portText with
    | nil => rfl
    | cons c digits =>
      obtain rfl := port c rfl
      rfl
  | cons c name ih =>
    obtain ⟨here, there⟩ := List.forall_mem_cons.mp plain
    rw [List.cons_append, splitPort, if_neg (by simp [here.1])]
    dsimp only
    rw [Bool.false_and, Bool.or_false, decide_eq_false here.2, ih there]

/-- Between brackets no colon is in front of a port. -/
theorem splitPort_inBrackets {inner behind : List Char} (closed : ']' ∉ inner) :
    splitPort true (inner ++ ']' :: behind) =
      (inner ++ ']' :: (splitPort false behind).1, (splitPort false behind).2) := by
  induction inner with
  | nil => rfl
  | cons c inner ih =>
    rw [List.mem_cons, not_or] at closed
    rw [List.cons_append, splitPort, if_neg (by simp)]
    dsimp only
    have inside : (decide (c = '[') || true && decide (c ≠ ']')) = true := by
      rw [decide_eq_true (Ne.symm closed.1), Bool.and_true, Bool.or_true]
    rw [inside, ih closed.2]
    rfl

/-- The port begins behind the host. -/
theorem splitPort_host {special : Bool} {host : Host} (kept : host.Kept special)
    {portText : List Char} (port : ∀ c ∈ portText.head?, c = ':') :
    splitPort false (host.text.toList ++ portText) = (host.text.toList, portText) := by
  rcases kept.text_cases with ⟨address, rfl⟩ | name
  · have closed : ']' ∉ address.text.toList := fun found =>
      (Host.inHost_of_mem_v6 found).2 (by decide)
    have alone : splitPort false ([] ++ portText) = ([], portText) :=
      splitPort_name (List.forall_mem_nil _) port
    rw [List.nil_append] at alone
    rw [Host.toList_text_v6, List.cons_append, List.append_assoc, List.singleton_append]
    rw [splitPort, if_neg (by decide)]
    dsimp only
    have inside : (decide ('[' = '[') || false && decide ('[' ≠ ']')) = true := rfl
    rw [inside, splitPort_inBrackets closed, alone]
  · refine splitPort_name (fun c found => ?_) port
    have other := (name c found).2
    simp at other
    exact ⟨other.1, other.2.1⟩

theorem portNumber_eq (digits : List Char) (port : Nat)
    (read : ∀ c ∈ digits, Text.digit? 10 c = some (Text.valueOf c))
    (bound : (digits.map Text.valueOf).foldl (fun n d => n * 10 + d) port ≤ 65535) :
    portNumber port digits =
      .ok ((digits.map Text.valueOf).foldl (fun n d => n * 10 + d) port) := by
  induction digits generalizing port with
  | nil => rfl
  | cons c digits ih =>
    obtain ⟨here, there⟩ := List.forall_mem_cons.mp read
    rw [List.map_cons, List.foldl_cons] at bound ⊢
    have fits : ¬ port * 10 + Text.valueOf c > 65535 :=
      Nat.not_lt.mpr (Nat.le_trans (Text.le_foldl_digits (by decide) _ _) bound)
    rw [portNumber, here]
    dsimp only
    rw [if_neg fits, ih _ there bound]

theorem portNumber_toDigits {n : Nat} (bound : n ≤ 65535) :
    portNumber 0 (Nat.toDigits 10 n) = .ok n := by
  have value : ((Nat.toDigits 10 n).map Text.valueOf).foldl (fun n d => n * 10 + d) 0 = n :=
    Text.ofDigits_values (by decide) (by decide) n
  have read := portNumber_eq (Nat.toDigits 10 n) 0
    (fun _ found => Text.digit?_of_mem_toDigits (by decide) (by decide) found) (by omega)
  rw [value] at read
  exact read

/-! ## Authorities -/

namespace Authority

/-- The user and the password as they are written, if there are any. -/
def info? (parts : Authority) : Option (List Char) :=
  if parts.user = "" ∧ parts.password = "" then none
  else
    some (parts.user.toList ++
      if parts.password = "" then [] else ':' :: parts.password.toList)

/-- The port as it is written, with the colon in front of it. -/
def portChars (parts : Authority) : List Char :=
  match parts.port with
  | some port => ':' :: Nat.toDigits 10 port
  | none => []

/-- What is written between the slashes and the path. -/
def written (parts : Authority) : List Char :=
  (match parts.info? with
    | some info => info ++ ['@']
    | none => []) ++ (parts.host.text.toList ++ parts.portChars)

variable {scheme : String} {parts : Authority}

theorem toList_userInfoText (scheme : String) (parts : Authority) (path : UrlPath)
    (query fragment : Option String) :
    (Url.mk scheme parts.user parts.password (some parts.host) parts.port path query
      fragment).userInfoText.toList =
      match parts.info? with
      | some info => info ++ ['@']
      | none => [] := by
  unfold userInfoText info?
  dsimp only
  split
  · rfl
  · dsimp only
    split
    · rw [String.toList_append, String.toList_append]
      rfl
    · rw [String.toList_append, String.toList_append, String.toList_append]
      rfl

/-- What is written is the user, the host and the port behind two slashes. -/
theorem toList_authorityText (scheme : String) (parts : Authority) (path : UrlPath)
    (query fragment : Option String) :
    (Url.mk scheme parts.user parts.password (some parts.host) parts.port path query
      fragment).authorityText.toList = '/' :: '/' :: parts.written := by
  have user := toList_userInfoText scheme parts path query fragment
  have port : (match parts.port with
      | some port => ":" ++ toString port
      | none => "").toList = parts.portChars := by
    unfold portChars
    cases parts.port with
    | none => rfl
    | some port =>
      dsimp only
      rw [String.toList_append, Text.toString_toList]
      rfl
  unfold authorityText written
  dsimp only
  rw [String.toList_append, String.toList_append, String.toList_append, user]
  refine (congrArg (_ ++ ·) port).trans ?_
  rw [List.append_assoc, List.append_assoc]
  rfl

theorem info?_ne (parts : Authority) : parts.info? ≠ some [] := by
  unfold info?
  split
  · nofun
  · next given =>
    intro nothing
    obtain ⟨user, password⟩ := List.append_eq_nil_iff.mp (Option.some.inj nothing)
    rw [String.toList_eq_nil_iff] at user
    refine given ⟨user, ?_⟩
    split at password
    · assumption
    · cases password

theorem userAndPassword_info? (kept : parts.Kept scheme) :
    userAndPassword (parts.info?.getD []) = (parts.user, parts.password) := by
  have user : String.ofList (Percent.encode Percent.inUserInfo parts.user.toList) = parts.user := by
    rw [Percent.encode_eq_self kept.user, String.ofList_toList]
  have password :
      String.ofList (Percent.encode Percent.inUserInfo parts.password.toList) = parts.password := by
    rw [Percent.encode_eq_self kept.password, String.ofList_toList]
  have free : ':' ∉ parts.user.toList := by
    intro found
    have bad := kept.user _ found
    cases bad
  have whole := Text.splitOnce_of_not_mem free
  unfold info?
  split
  · next nobody => rw [nobody.1, nobody.2]; rfl
  · rw [Option.getD_some]
    split
    · next secret =>
      rw [List.append_nil, userAndPassword, whole]
      dsimp only
      rw [user, secret]
    · rw [userAndPassword, Text.splitOnce_eq_some_iff.mpr ⟨rfl, free⟩]
      dsimp only
      rw [user, password]

theorem port?_portChars (kept : parts.Kept scheme) :
    port? scheme parts.portChars = .ok parts.port := by
  unfold portChars
  cases number : parts.port with
  | none => rfl
  | some n =>
    obtain ⟨bound, other⟩ := kept.port n number
    have read := portNumber_toDigits bound
    dsimp only
    obtain ⟨c, digits, split⟩ := List.exists_cons_of_ne_nil (Nat.toDigits_ne_nil (n := n) (b := 10))
    rw [split] at read ⊢
    rw [port?, read]
    · change Except.ok (if impliedPort? scheme = some n then none else some n) = _
      rw [if_neg other]
    · exact List.cons_ne_nil c digits

theorem head?_portChars (parts : Authority) : ∀ c ∈ parts.portChars.head?, c = ':' := by
  unfold portChars
  cases parts.port with
  | none => nofun
  | some n =>
    rintro c ⟨⟩
    rfl

theorem readHost_text (kept : parts.Kept scheme)
    (foreign : isSpecial scheme = true → parts.host.isForeign = true →
      parts.host.StandsForItself) :
    readHost (isSpecial scheme) parts.host.text.toList = .ok parts.host := by
  have named := kept.host
  unfold readHost
  cases special : isSpecial scheme with
  | true =>
    rw [special] at named
    exact Host.parse_text named (foreign special)
  | false =>
    rw [special] at named
    exact Host.parseOpaque_text named

/-- What stands in front of a path is read as it is written. -/
theorem authority_written (kept : parts.Kept scheme)
    (foreign : isSpecial scheme = true → parts.host.isForeign = true →
      parts.host.StandsForItself) (behind : List Char) :
    authority scheme parts.info? parts.host.text.toList parts.portChars behind = .ok parts := by
  have named : isSpecial scheme = true → parts.host.text.toList ≠ [] := by
    intro special
    have host := kept.host
    rw [special] at host
    exact host.text_ne_nil
  have alone : parts.host.text.toList = [] →
      parts.user = "" ∧ parts.password = "" ∧ parts.portChars = [] := by
    intro empty
    obtain ⟨user, password, port⟩ := kept.unnamed (kept.host.eq_unnamed empty)
    exact ⟨user, password, by rw [portChars, port]⟩
  refine authority_eq_ok_iff.mpr ⟨?_, ?_, userAndPassword_info? kept,
    readHost_text kept foreign, ?_, port?_portChars kept⟩
  · exact fun lone => parts.info?_ne lone.1
  · exact fun empty => named empty.1 empty.2
  · rintro ⟨empty, more⟩
    obtain ⟨user, password, port⟩ := alone empty
    grind

/-! ## The characters of an authority -/

/-- A character that stands in front of a path. -/
def InFront (c : Char) : Prop :=
  Percent.isControl c = false ∧ c ∉ ['/', '\\', '?', '#']

instance (c : Char) : Decidable (InFront c) :=
  inferInstanceAs (Decidable (_ ∧ _))

theorem inFront_of_inUserInfo {c : Char} (free : Percent.inUserInfo c = false) : InFront c := by
  have each : ∀ d ∈ ['/', '\\', '?', '#'], Percent.inUserInfo d = true :=
    List.all_eq_true.mp (by decide)
  refine ⟨?_, fun found => ?_⟩
  · unfold Percent.inUserInfo Percent.inPath Percent.inFragment at free
    simp only [Bool.or_eq_false_iff] at free
    exact free.1.1.1
  · rw [each c found] at free
    cases free

theorem inFront_of_inHost {c : Char} (inside : Host.InHost c) : InFront c := by
  refine ⟨inside.1, fun found => inside.2 ?_⟩
  exact List.mem_append_left ['@'] found

theorem inFront_digits : ∀ c ∈ ':' :: (List.range 10).map Nat.digitChar, InFront c ∧ c ≠ '@' :=
  List.all_iff_forall_prop.mp (by decide)

theorem inFront_of_mem_portChars {c : Char} (found : c ∈ parts.portChars) :
    InFront c ∧ c ≠ '@' := by
  refine inFront_digits c ?_
  unfold portChars at found
  cases number : parts.port with
  | none =>
    rw [number] at found
    cases found
  | some n =>
    rw [number] at found
    rcases List.mem_cons.mp found with rfl | digit
    · exact List.mem_cons_self
    · obtain ⟨d, bound, rfl⟩ := Text.exists_digitChar (by decide) digit
      exact List.mem_cons_of_mem _ (List.mem_map_of_mem (List.mem_range.mpr bound))

/-- The host and the port hold no sign of a user. -/
theorem not_mem_hostAndPort (kept : parts.Kept scheme) :
    '@' ∉ parts.host.text.toList ++ parts.portChars := by
  rw [List.mem_append, not_or]
  constructor
  · exact fun found => (kept.host.inHost _ found).2 (by decide)
  · exact fun found => (inFront_of_mem_portChars found).2 rfl

theorem inFront_of_mem_info? (kept : parts.Kept scheme) {info : List Char}
    (given : parts.info? = some info) : ∀ c ∈ info, InFront c := by
  unfold info? at given
  split at given
  · cases given
  · cases given
    intro c found
    rcases List.mem_append.mp found with user | more
    · exact inFront_of_inUserInfo (kept.user c user)
    split at more
    · exact absurd more List.not_mem_nil
    rcases List.mem_cons.mp more with rfl | password
    · decide
    · exact inFront_of_inUserInfo (kept.password c password)

theorem inFront_of_mem_written (kept : parts.Kept scheme) {c : Char} (found : c ∈ parts.written) :
    InFront c := by
  unfold written at found
  rcases List.mem_append.mp found with user | hostAndPort
  · cases given : parts.info? with
    | none =>
      rw [given] at user
      exact absurd user List.not_mem_nil
    | some info =>
      rw [given] at user
      rcases List.mem_append.mp user with early | sign
      · exact inFront_of_mem_info? kept given c early
      · obtain rfl := List.mem_singleton.mp sign
        decide
  · rcases List.mem_append.mp hostAndPort with host | port
    · exact inFront_of_inHost (kept.host.inHost c host)
    · exact (inFront_of_mem_portChars port).1

theorem written_ne_nil (kept : parts.Kept scheme) (special : isSpecial scheme = true) :
    parts.written ≠ [] := by
  have host := kept.host
  rw [special] at host
  unfold written
  exact List.append_ne_nil_of_right_ne_nil _ (List.append_ne_nil_of_left_ne_nil host.text_ne_nil _)

theorem splitUserInfo_written (kept : parts.Kept scheme) :
    splitUserInfo parts.written = (parts.info?, parts.host.text.toList ++ parts.portChars) := by
  have free := not_mem_hostAndPort kept
  unfold written
  cases parts.info? with
  | none => exact splitUserInfo_of_not_mem free
  | some info =>
    dsimp only
    rw [List.append_assoc, List.singleton_append]
    exact splitUserInfo_append info free

end Authority

theorem endsAuthority_of_inFront {special : Bool} {c : Char} (front : Authority.InFront c) :
    endsAuthority special c = false := by
  have other := front.2
  simp at other
  simp [endsAuthority, isSlash, other]

theorem isSlash_of_inFront {c : Char} (front : Authority.InFront c) : isSlash true c = false := by
  have other := front.2
  simp at other
  simp [isSlash, other]

end BearerGate.Url
