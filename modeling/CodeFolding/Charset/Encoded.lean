import CodeFolding.Charset

set_option autoImplicit false

namespace CodeFolding

namespace Charset

/-- Ranges of bytes, one for each place of an encoded character. -/
abbrev ByteRanges := List (Nat × Nat)

/-- All numbers from `low` to `high` as sequences of ranges, one range for each of their
`places + 1` digits to the base 64, in increasing order. `mark` is added to the first digit and
the mark of bytes that follow to the others. -/
def digitRanges (mark : Nat) : Nat → Nat → Nat → List ByteRanges
  | 0, low, high => [[(mark + low, mark + high)]]
  | places + 1, low, high =>
    let unit := 64 ^ (places + 1)
    let first := low / unit
    let last := high / unit
    let within (digit low high : Nat) : List ByteRanges :=
      (digitRanges 0x80 places low high).map ((mark + digit, mark + digit) :: ·)
    if first = last then within first (low % unit) (high % unit)
    else
      let front := if low % unit = 0 then [] else within first (low % unit) (unit - 1)
      let back := if high % unit = unit - 1 then [] else within last 0 (high % unit)
      let start := if front.isEmpty then first else first + 1
      let behind := if back.isEmpty then last + 1 else last
      let middle := if start < behind then
          [(mark + start, mark + behind - 1) :: List.replicate (places + 1) (0x80, 0xBF)]
        else []
      front ++ middle ++ back

/-- The encoded forms: how many bytes follow the first, which characters have the form, and what
the first byte adds to its digit. -/
def encodedForms : List (Nat × Nat × Nat × Nat) :=
  [(0, 0, 0x7F, 0), (1, 0x80, 0x7FF, 0xC0), (2, 0x800, 0xFFFF, 0xE0), (3, 0x10000, 0x10FFFF, 0xF0)]

/-- The encoded characters from `low` to `high`. -/
def encodedRange (low high : Nat) : List ByteRanges :=
  encodedForms.flatMap fun (places, first, last, mark) =>
    if max low first ≤ min high last then
      digitRanges mark places (max low first) (min high last)
    else []

def encoded (set : Charset) : List ByteRanges :=
  set.ranges.flatMap fun (low, high) => encodedRange low high

/-- The sequences by their first ranges, each with what follows it in the sequences. Sequences
with the same first range are next to each other. -/
def byFirst (sequences : List ByteRanges) : List ((Nat × Nat) × List ByteRanges) :=
  (sequences.splitBy fun left right => left.head? == right.head?).filterMap fun group =>
    (group.head?.bind List.head?).map fun range => (range, group.map List.tail)

end Charset

end CodeFolding
