/-!
# Texts as lists of characters

The text operations of the library on `List Char`: white space, trimming, cutting at separators
and looking for a piece. `pieces` keeps empty pieces, so joining them with the separator gives the
text back, while `words` drops them.
-/

namespace PacScript.Text

/-- White space: what trimming removes and what separates words. -/
def isBlank (c : Char) : Bool :=
  let n := c.toNat
  (9 ≤ n && n ≤ 13) || (0x1c ≤ n && n ≤ 0x20) || n == 0x85 || n == 0xa0 || n == 0x1680
    || (0x2000 ≤ n && n ≤ 0x200a) || n == 0x2028 || n == 0x2029 || n == 0x202f || n == 0x205f
    || n == 0x3000

/-- The text without the characters of a class at its two ends. -/
def trimBy (p : Char → Bool) (cs : List Char) : List Char :=
  ((cs.dropWhile p).reverse.dropWhile p).reverse

/-- The text without white space at its two ends. -/
def trim (cs : List Char) : List Char := trimBy isBlank cs

/-- The pieces between separators, empty ones included: one more than there are separators. -/
def piecesBy (isSeparator : Char → Bool) : List Char → List (List Char)
  | [] => [[]]
  | c :: rest =>
    if isSeparator c then [] :: piecesBy isSeparator rest
    else
      match piecesBy isSeparator rest with
      | [] => [[c]]
      | piece :: more => (c :: piece) :: more

/-- The pieces between occurrences of one character. -/
def pieces (separator : Char) (cs : List Char) : List (List Char) := piecesBy (· == separator) cs

/-- The non-empty runs between white space. -/
def words (cs : List Char) : List (List Char) :=
  (piecesBy isBlank cs).filter fun w => !w.isEmpty

/-- What stands before and after the first occurrence of a character. -/
def cut? (separator : Char) : List Char → Option (List Char × List Char)
  | [] => none
  | c :: rest =>
    if c == separator then some ([], rest)
    else (cut? separator rest).map fun (before, after) => (c :: before, after)

/-- Only the separator is lost. -/
theorem length_of_cut? {separator : Char} {cs before after : List Char}
    (h : cut? separator cs = some (before, after)) :
    before.length + after.length + 1 = cs.length := by
  induction cs generalizing before with
  | nil => simp [cut?] at h
  | cons c rest ih =>
    simp only [cut?] at h
    split at h
    · simp only [Option.some.injEq, Prod.mk.injEq] at h
      simp [← h.1, ← h.2]
    · rcases hr : cut? separator rest with _ | ⟨b, a⟩ <;> simp only [hr] at h
      · simp at h
      · simp only [Option.map_some, Option.some.injEq, Prod.mk.injEq] at h
        obtain ⟨rfl, rfl⟩ := h
        have := ih hr
        simp only [List.length_cons]
        omega

/-- The text without one line feed at its end. -/
def dropFinalFeed (cs : List Char) : List Char :=
  if cs.getLast? == some '\n' then cs.dropLast else cs

/-- What stands before and after the last occurrence of a character. -/
def cutLast? (separator : Char) (cs : List Char) : Option (List Char × List Char) :=
  (cut? separator cs.reverse).map fun (after, before) => (before.reverse, after.reverse)

/-- Whether a code point lies in one of the given ranges. -/
def inRanges (ranges : List (Nat × Nat)) (n : Nat) : Bool :=
  ranges.any fun (first, last) => first ≤ n && n ≤ last

def isHexDigit (c : Char) : Bool :=
  c.isDigit || ('a' ≤ c && c ≤ 'f') || ('A' ≤ c && c ≤ 'F')

/-- The value of a hexadecimal digit; `0` for any other character. -/
def hexValue (c : Char) : Nat :=
  if c.isDigit then c.toNat - 48
  else if 'a' ≤ c && c ≤ 'f' then c.toNat - 87
  else if 'A' ≤ c && c ≤ 'F' then c.toNat - 55
  else 0

/-- The number that a row of hexadecimal digits denotes. -/
def ofHexDigits (cs : List Char) : Nat := cs.foldl (fun n c => n * 16 + hexValue c) 0

/-- The number that a row of ASCII digits denotes. -/
def ofDigits (cs : List Char) : Nat := cs.foldl (fun n c => n * 10 + (c.toNat - 48)) 0

/-- Digits with zeros in front of them up to a least width. -/
def padded (width : Nat) (digits : List Char) : List Char :=
  List.replicate (width - digits.length) '0' ++ digits

/-- Decimal digits of a least width. -/
def decimalDigits (width n : Nat) : List Char := padded width (Nat.toDigits 10 n)

/-- Lower-case hexadecimal digits of a least width. -/
def hexDigits (width n : Nat) : List Char := padded width (Nat.toDigits 16 n)

end PacScript.Text
