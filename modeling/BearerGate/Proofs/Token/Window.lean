import BearerGate.Token.Validator

/-!
# The window of claims

The bounds of the time in which claims are in force, in exact numbers.

Sums of 64 bits that stop at the ends of the range compare with times of 64 bits as the exact sums
do. Only the leeway itself is cut: one that does not fit counts as the greatest that does.
-/

namespace BearerGate

/-! ## Saturating sums -/

theorem saturate_toInt (n : Int) : (saturate n).toInt = max int64Least (min int64Greatest n) := by
  have least : int64Least = -2 ^ 63 := rfl
  have greatest : int64Greatest = 2 ^ 63 - 1 := rfl
  exact Int64.toInt_ofInt_of_le (by omega) (by omega)

theorem lt_saturate_iff {time : Int64} {n : Int} (reached : n ≤ int64Greatest) :
    time < saturate n ↔ time.toInt < n := by
  have lower : int64Least ≤ time.toInt := time.le_toInt
  rw [Int64.lt_iff_toInt_lt, saturate_toInt]
  omega

theorem saturate_lt_iff {time : Int64} {n : Int} (reached : int64Least ≤ n) :
    saturate n < time ↔ n < time.toInt := by
  have greatest : int64Greatest = 2 ^ 63 - 1 := rfl
  have upper := time.toInt_lt
  rw [Int64.lt_iff_toInt_lt, saturate_toInt]
  omega

/-- The leeway that counts, in seconds. -/
def tolerance (leeway : Nat) : Int := min leeway int64Greatest

theorem saturate_leeway (leeway : Nat) : (saturate leeway).toInt = tolerance leeway := by
  have least : int64Least = -2 ^ 63 := rfl
  have greatest : int64Greatest = 2 ^ 63 - 1 := rfl
  rw [saturate_toInt, tolerance]
  omega

theorem lt_saturatingSub_iff {time now : Int64} {leeway : Nat} :
    time < saturatingSub now (saturate leeway) ↔ time.toInt < now.toInt - tolerance leeway := by
  have greatest : int64Greatest = 2 ^ 63 - 1 := rfl
  have upper := now.toInt_lt
  have positive : 0 ≤ tolerance leeway := by
    rw [tolerance]
    omega
  rw [saturatingSub, saturate_leeway, lt_saturate_iff (by omega)]

theorem saturatingAdd_lt_iff {time now : Int64} {leeway : Nat} :
    saturatingAdd now (saturate leeway) < time ↔ now.toInt + tolerance leeway < time.toInt := by
  have lower : int64Least ≤ now.toInt := now.le_toInt
  have greatest : int64Greatest = 2 ^ 63 - 1 := rfl
  have positive : 0 ≤ tolerance leeway := by
    rw [tolerance]
    omega
  rw [saturatingAdd, saturate_leeway, saturate_lt_iff (by omega)]

/-! ## The window -/

namespace Claims

/-- The claims have ended more than the leeway ago. -/
def Expired (claims : Claims) (now : Int64) (leeway : Nat) : Prop :=
  ∃ ends, claims.expiresAt = some ends ∧ ends.toInt < now.toInt - tolerance leeway

/-- The claims begin, or are made, more than the leeway later. -/
def NotYetValid (claims : Claims) (now : Int64) (leeway : Nat) : Prop :=
  ∃ begins, (claims.notBefore = some begins ∨ claims.issuedAt = some begins) ∧
    now.toInt + tolerance leeway < begins.toInt

variable {claims : Claims} {now : Int64} {leeway : Nat}

theorem any_expiresAt_iff :
    claims.expiresAt.any (· < saturatingSub now (saturate leeway)) = true ↔
      claims.Expired now leeway := by
  rw [Option.any_eq_true]
  unfold Expired
  simp only [decide_eq_true_eq, lt_saturatingSub_iff]

theorem any_begins_iff :
    (claims.notBefore.any (saturatingAdd now (saturate leeway) < ·) ||
      claims.issuedAt.any (saturatingAdd now (saturate leeway) < ·)) = true ↔
      claims.NotYetValid now leeway := by
  rw [Bool.or_eq_true, Option.any_eq_true, Option.any_eq_true]
  simp only [decide_eq_true_eq, saturatingAdd_lt_iff]
  constructor
  · rintro (⟨begins, found, late⟩ | ⟨begins, found, late⟩)
    · exact ⟨begins, .inl found, late⟩
    · exact ⟨begins, .inr found, late⟩
  · rintro ⟨begins, found | found, late⟩
    · exact .inl ⟨begins, found, late⟩
    · exact .inr ⟨begins, found, late⟩

theorem windowFault?_of_expired (expired : claims.Expired now leeway) :
    claims.windowFault? now leeway = some .expired := by
  unfold windowFault?
  exact if_pos (any_expiresAt_iff.mpr expired)

theorem windowFault?_of_notYetValid (running : ¬ claims.Expired now leeway)
    (early : claims.NotYetValid now leeway) :
    claims.windowFault? now leeway = some .notYetValid := by
  unfold windowFault?
  dsimp only
  rw [if_neg fun ended => running (any_expiresAt_iff.mp ended),
    if_pos (any_begins_iff.mpr early)]

theorem windowFault?_of_inForce (running : ¬ claims.Expired now leeway)
    (begun : ¬ claims.NotYetValid now leeway) : claims.windowFault? now leeway = none := by
  unfold windowFault?
  dsimp only
  rw [if_neg fun ended => running (any_expiresAt_iff.mp ended),
    if_neg fun early => begun (any_begins_iff.mp early)]

end Claims

end BearerGate
