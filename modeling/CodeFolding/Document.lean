import CodeFolding.Span
import CodeFolding.Unicode.Blank

set_option autoImplicit false

namespace CodeFolding

namespace Lines

/-- Whether the character `c` in front of `rest` is the last one of its line. -/
def endsLine (c : Char) (rest : List Char) : Bool :=
  Unicode.isLineBreak c && !(c == '\r' && rest.head? == some '\n')

/-- The line of every offset of a text whose first line has the number `line`, the offset behind
the last character included. -/
def numbers (line : Nat) : List Char → List Nat
  | [] => [line]
  | c :: rest => line :: numbers (if endsLine c rest then line + 1 else line) rest

/-- Where the lines after the first begin, in a text that begins at `offset`. -/
def laterStarts (offset : Nat) : List Char → List Nat
  | [] => []
  | c :: rest =>
    if endsLine c rest then (offset + 1) :: laterStarts (offset + 1) rest
    else laterStarts (offset + 1) rest

def starts (text : List Char) : List Nat :=
  0 :: laterStarts 0 text

end Lines

/-- A text together with the tables of its lines. Lines and offsets count from zero, and offsets
count characters. -/
structure Document where
  chars : Array Char
  lineNumbers : Array Nat
  lineStarts : Array Nat
  lineNumbers_eq : lineNumbers = (Lines.numbers 0 chars.toList).toArray
  lineStarts_eq : lineStarts = (Lines.starts chars.toList).toArray

namespace Document

def ofChars (chars : Array Char) : Document where
  chars := chars
  lineNumbers := (Lines.numbers 0 chars.toList).toArray
  lineStarts := (Lines.starts chars.toList).toArray
  lineNumbers_eq := rfl
  lineStarts_eq := rfl

def ofString (text : String) : Document :=
  ofChars text.toList.toArray

instance : Inhabited Document := ⟨ofChars #[]⟩

/-- A document is determined by its characters. -/
@[ext] theorem ext (left right : Document) (same : left.chars = right.chars) : left = right := by
  obtain ⟨chars, numbers, starts, numbersEq, startsEq⟩ := left
  obtain ⟨chars', numbers', starts', numbersEq', startsEq'⟩ := right
  cases same
  cases numbersEq
  cases numbersEq'
  cases startsEq
  cases startsEq'
  rfl

def length (document : Document) : Nat :=
  document.chars.size

def isEmpty (document : Document) : Bool :=
  document.length == 0

def text (document : Document) : String :=
  String.ofList document.chars.toList

def fullSpan (document : Document) : Span :=
  Span.ordered 0 document.length

def charAt? (document : Document) (offset : Nat) : Option Char :=
  document.chars[offset]?

/-- The characters of `span`, as far as the text reaches. -/
def extract (document : Document) (span : Span) : Array Char :=
  let stop := min span.stop document.length
  document.chars.extract (min span.start stop) stop

def slice (document : Document) (span : Span) : String :=
  String.ofList (document.extract span).toList

def isBlank (document : Document) (span : Span) : Bool :=
  (document.extract span).all Unicode.isBlank

/-- The number of lines; the empty text has one. -/
def lineCount (document : Document) : Nat :=
  document.lineStarts.size

def lastLine (document : Document) : Nat :=
  document.lineCount - 1

/-- The line of `offset`; every offset past the text is on the last line. -/
def lineOf (document : Document) (offset : Nat) : Nat :=
  document.lineNumbers.getD (min offset document.length) 0

/-- Where `line` begins; every line past the text counts as the last one. -/
def lineStart (document : Document) (line : Nat) : Nat :=
  document.lineStarts.getD (min line document.lastLine) 0

/-- Where `line` ends, behind its break. -/
def lineEndWithBreak (document : Document) (line : Nat) : Nat :=
  let line := min line document.lastLine
  if line + 1 < document.lineCount then document.lineStart (line + 1) else document.length

/-- Where `line` ends, in front of its break. -/
def lineEnd (document : Document) (line : Nat) : Nat :=
  let start := document.lineStart line
  let stop := document.lineEndWithBreak line
  let last? (stop : Nat) : Option Char :=
    if start < stop then document.charAt? (stop - 1) else none
  match last? stop with
  | none => stop
  | some c =>
    if c = '\n' then
      if last? (stop - 1) = some '\r' then stop - 2 else stop - 1
    else if Unicode.isLineBreak c then stop - 1
    else stop

def lineSpan (document : Document) (line : Nat) : Span :=
  Span.ordered (document.lineStart line) (document.lineEnd line)

def lineText? (document : Document) (line : Nat) : Option String :=
  if line < document.lineCount then some (document.slice (document.lineSpan line)) else none

/-- Whether `line` is empty or white space alone, as are the lines past the text. -/
def isBlankLine (document : Document) (line : Nat) : Bool :=
  document.lineCount ≤ line || document.isBlank (document.lineSpan line)

@[simp] theorem chars_ofChars (chars : Array Char) : (ofChars chars).chars = chars := rfl

@[simp] theorem length_ofChars (chars : Array Char) : (ofChars chars).length = chars.size := rfl

theorem slice_of_empty (document : Document) {span : Span} (empty : span.stop ≤ span.start) :
    document.slice span = "" := by
  unfold slice extract
  rw [Array.extract_eq_empty_of_le (by omega)]

theorem toList_slice (document : Document) {span : Span} (inOrder : span.start ≤ span.stop)
    (inside : span.stop ≤ document.length) : (document.slice span).toList =
      (document.chars.toList.drop span.start).take (span.stop - span.start) := by
  simp only [slice, extract, Nat.min_eq_left inside, Nat.min_eq_left inOrder,
    String.toList_ofList, Array.toList_extract, List.extract_eq_take_drop]

end Document

end CodeFolding
