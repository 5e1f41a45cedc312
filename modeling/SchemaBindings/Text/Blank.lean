namespace SchemaBindings
namespace Text

/-!
White space: the 25 characters with the Unicode property White_Space.
-/

/-- The characters with the property White_Space, as first and last code
points. -/
def blankRanges : List (Nat × Nat) :=
  [(0x9, 0xD), (0x20, 0x20), (0x85, 0x85), (0xA0, 0xA0), (0x1680, 0x1680), (0x2000, 0x200A),
    (0x2028, 0x2029), (0x202F, 0x202F), (0x205F, 0x205F), (0x3000, 0x3000)]

def isBlank (c : Char) : Bool :=
  blankRanges.any fun range => range.1 ≤ c.toNat && c.toNat ≤ range.2

def byteCount : List Char -> Nat
  | [] => 0
  | c :: characters => c.utf8Size + byteCount characters

end Text
end SchemaBindings
