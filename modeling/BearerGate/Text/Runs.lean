/-!
# Runs of characters

What is known of characters one by one is kept in tables of runs, in increasing order of their
code points, and looked up by bisection.
-/

namespace BearerGate.Text

/-- The last entry of a table that starts at or below `code`, by bisection among the `width`
entries from position `low` on. -/
def lastAtOrBelow {α : Type} (table : Array (Nat × α)) (code low width : Nat) : Option (Nat × α) :=
  if width ≤ 1 then
    (table[low]?).bind fun entry => if width = 1 ∧ entry.1 ≤ code then some entry else none
  else
    match table[low + width / 2]? with
    | none => none
    | some entry =>
      if entry.1 ≤ code then lastAtOrBelow table code (low + width / 2) (width - width / 2)
      else lastAtOrBelow table code low (width / 2)
termination_by width

/-- The last entry of a table that starts at or below a character. -/
def entryFor? {α : Type} (table : Array (Nat × α)) (c : Char) : Option (Nat × α) :=
  lastAtOrBelow table c.toNat 0 table.size

/-- Whether a character is in one of the runs. -/
def isInRuns (runs : Array (Nat × Nat)) (c : Char) : Bool :=
  match entryFor? runs c with
  | some (_, last) => c.toNat ≤ last
  | none => false

/-- The value of the run that a character is in. -/
def valueInRuns? {α : Type} (runs : Array (Nat × Nat × α)) (c : Char) : Option α :=
  match entryFor? runs c with
  | some (_, last, value) => if c.toNat ≤ last then some value else none
  | none => none

end BearerGate.Text
