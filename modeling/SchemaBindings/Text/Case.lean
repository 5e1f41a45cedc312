import SchemaBindings.Text.CaseTable

namespace SchemaBindings
namespace Text

/-!
Letters, numbers and letter case.

ASCII characters are decided by their code alone and never look at the tables.
-/

def isAlphanumeric (c : Char) : Bool :=
  if c.toNat < 0x80 then c.isAlphanum
  else alphanumericRanges.any fun range => range.1 ≤ c.toNat && c.toNat ≤ range.2

def isSmall (c : Char) : Bool :=
  if c.toNat < 0x80 then c.isLower else lowercaseRuns.any fun run => run.contains c.toNat

def isCapital (c : Char) : Bool :=
  if c.toNat < 0x80 then c.isUpper else uppercaseRuns.any fun run => run.contains c.toNat

/-- The form of a code point beyond ASCII that a table of exceptions or a table
of runs gives; a code point in neither stays as it is. -/
def caseForm (special : List (Nat × List Nat)) (runs : List (Run × Int)) (c : Char) : List Char :=
  match special.lookup c.toNat with
  | some codes => codes.map Char.ofNat
  | none =>
      match runs.find? fun entry => entry.1.contains c.toNat with
      | some (_, shift) => [Char.ofNat (c.toNat + shift).toNat]
      | none => [c]

/-- The small form of a character; it may take several characters. -/
def small (c : Char) : List Char :=
  if c.toNat < 0x80 then [c.toLower] else caseForm loweredSpecially loweringRuns c

/-- The capital form of a character; it may take several characters. -/
def capital (c : Char) : List Char :=
  if c.toNat < 0x80 then [c.toUpper] else caseForm raisedSpecially raisingRuns c

end Text
end SchemaBindings
