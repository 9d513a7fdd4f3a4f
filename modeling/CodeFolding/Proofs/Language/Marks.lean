import CodeFolding.Language
import CodeFolding.Proofs.Pattern.Ahead
import Mathlib.Data.List.DropRight

set_option autoImplicit false

namespace CodeFolding

namespace Marker

def comments : List (List Char) :=
  [['/', '/'], ['/', '*']]

def directives : List (List Char) :=
  [['#']]

/-- Behind one of the openings and white space, the text has `word` and goes on with `rest`. -/
def Begins (openings : List (List Char)) (word : String) (text rest : List Char) : Prop :=
  ∃ opening ∈ openings, ∃ blanks, (∀ c ∈ blanks, Unicode.isBlank c = true) ∧
    text = opening ++ (blanks ++ (word.toList ++ rest))

/-- A word in front of `rest` ends there. -/
def EndsWord (rest : List Char) : Prop :=
  ∀ c ∈ rest.head?, isWordCharacter false c = false

/-- The text without the end of a comment, unless nothing else stands there. -/
def withoutClosing (rest : List Char) : List Char :=
  if 3 ≤ rest.length ∧ ['*', '/'] <:+ rest then rest.take (rest.length - 2) else rest

def isSpace (c : Char) : Bool :=
  c == ' ' || c == '\t'

/-- The text without spaces and tabs at both ends. -/
def stripped (rest : List Char) : List Char :=
  (rest.dropWhile isSpace).rdropWhile isSpace

section Sets

def slashes : Charset := ⟨[42, 43, 47, 48]⟩

def spaces : Charset := ⟨[9, 10, 32, 33]⟩

def inLine : Charset := ⟨[0, 10, 11, 0xD800, 0xE000, 0x110000]⟩

theorem contains_slashes (c : Char) : slashes.contains c = true ↔ c = '/' ∨ c = '*' := by
  have slash : c = '/' ↔ c.toNat = 47 := Char.toNat_inj.symm
  have star : c = '*' ↔ c.toNat = 42 := Char.toNat_inj.symm
  rw [slash, star]
  simp only [Charset.contains, Charset.holds, slashes, Charset.within, Bool.not_false,
    Bool.not_true]
  grind

theorem contains_spaces (c : Char) : spaces.contains c = isSpace c := by
  have space : c = ' ' ↔ c.toNat = 32 := Char.toNat_inj.symm
  have tab : c = '\t' ↔ c.toNat = 9 := Char.toNat_inj.symm
  rw [Bool.eq_iff_iff, isSpace, Bool.or_eq_true, beq_iff_eq, beq_iff_eq, space, tab]
  simp only [Charset.contains, Charset.holds, spaces, Charset.within, Bool.not_false,
    Bool.not_true]
  grind

theorem contains_inLine (c : Char) : inLine.contains c = true ↔ c ≠ '\n' := by
  have valid := c.valid
  simp only [UInt32.isValidChar, Nat.isValidChar] at valid
  have code : c.val.toNat = c.toNat := rfl
  have feed : c = '\n' ↔ c.toNat = 10 := Char.toNat_inj.symm
  rw [ne_eq, feed]
  simp only [Charset.contains, Charset.holds, inLine, Charset.within, Bool.not_false,
    Bool.not_true]
  grind

end Sets

section Plans

open Plan

/-- Behind the opening of a comment and white space, `rest`. -/
def inComment (rest : Plan) : Plan :=
  seq (boundary .textStart) (seq (text ['/']) (seq (oneOf slashes)
    (seq (star 0 (oneOf Unicode.blanks) true) rest)))

/-- Behind the opening of a directive and white space, `rest`. -/
def inDirective (rest : Plan) : Plan :=
  seq (boundary .textStart) (seq (text ['#']) (seq (star 0 (oneOf Unicode.blanks) true) rest))

def commentName : Plan :=
  seq (group 1 (seq empty (seq (oneOf inLine) (star 1 (oneOf inLine) false))))
    (seq (seq empty (once 2 (alt (seq (group 2 (text ['*', '/'])) empty) empty)))
      (boundary .textEnd))

def directiveName : Plan :=
  seq (star 1 (oneOf spaces) true) (seq (group 1 (star 2 (oneOf inLine) false))
    (seq (star 3 (oneOf spaces) true) (boundary .textEnd)))

def commentStartPlan : Plan :=
  inComment (seq (text "#region".toList) (seq (oneOf Unicode.blanks) commentName))

def commentEndPlan : Plan :=
  inComment (text "#endregion".toList)

def directiveStartPlan : Plan :=
  inDirective (seq (text "region".toList) (seq (boundary (.word .edge false)) directiveName))

def directiveEndPlan : Plan :=
  inDirective (seq (text "endregion".toList) (boundary (.word .edge false)))

theorem read_patterns :
    Language.readStart .commentStart "^/[/*]\\s*#region\\s(.+?)(\\*/)?$" =
        .ok commentStartPlan ∧
      Language.readMark .commentEnd "^/[/*]\\s*#endregion" = .ok commentEndPlan ∧
      Language.readStart .directiveStart "^#\\s*region\\b[ \\t]*(.*?)[ \\t]*$" =
        .ok directiveStartPlan ∧
      Language.readMark .directiveEnd "^#\\s*endregion\\b" = .ok directiveEndPlan := by
  decide +kernel

/-- The rules of a language that has no marks of its own. -/
def standardRules (language : Language) : BraceRules where
  commentStart? := Language.nameIn? commentStartPlan
  commentEnd := Language.isMark commentEndPlan
  directiveStart? := Language.nameIn? directiveStartPlan
  directiveEnd := Language.isMark directiveEndPlan
  isFunctionKeyword text := language.functionKeywords.contains text

theorem rules_eq (language : Language) :
    { language with markers := {} }.rules = .ok (standardRules language) := by
  obtain ⟨commentStart, commentEnd, directiveStart, directiveEnd⟩ := read_patterns
  simp only [Language.rules, Option.mapM_some, commentStart, commentEnd, directiveStart,
    directiveEnd]
  rfl

end Plans

section Openings

open Plan

variable {α : Type} {input : Array Char} {progress : Progress} {next : Progress → Option α}
  {value : α}

theorem seek_slashes_iff :
    (seq (text ['/']) (oneOf slashes)).seek input ⟨0, []⟩ next = some value ↔
      ∃ opening ∈ comments, ∃ rest, input.toList = opening ++ rest ∧
        next ⟨opening.length, []⟩ = some value := by
  rw [seek, seek_text_iff]
  constructor
  · rintro ⟨⟨more, slash⟩, found⟩
    obtain ⟨⟨c, rest, second, member⟩, ends⟩ := (seek_oneOf_iff _).1 found
    have whole : input.toList = ['/', c] ++ rest := by
      have behind : more = c :: rest := (ahead_of_append slash).symm.trans second
      rw [← ahead_zero, slash, behind]
      rfl
    refine ⟨['/', c], ?_, rest, whole, ends⟩
    rcases (contains_slashes c).1 member with rfl | rfl
    · exact List.mem_cons_self
    · exact List.mem_cons_of_mem _ List.mem_cons_self
  · rintro ⟨opening, isComment, rest, whole, ends⟩
    obtain ⟨c, isOpener, rfl⟩ : ∃ c, (c = '/' ∨ c = '*') ∧ opening = ['/', c] := by
      rcases List.mem_cons.1 isComment with rfl | further
      · exact ⟨'/', Or.inl rfl, rfl⟩
      · exact ⟨'*', Or.inr rfl, List.mem_singleton.1 further⟩
    have slash : ahead input 0 = ['/'] ++ c :: rest := by
      rw [ahead_zero, whole]
      rfl
    have second : ahead input (0 + 1) = c :: rest := ahead_of_append slash
    exact ⟨⟨_, slash⟩, (seek_oneOf_iff _).2
      ⟨⟨c, rest, second, (contains_slashes c).2 isOpener⟩, ends⟩⟩

theorem seek_hash_iff :
    (text ['#']).seek input ⟨0, []⟩ next = some value ↔
      ∃ opening ∈ directives, ∃ rest, input.toList = opening ++ rest ∧
        next ⟨opening.length, []⟩ = some value := by
  rw [seek_text_iff]
  constructor
  · rintro ⟨⟨rest, hash⟩, ends⟩
    exact ⟨['#'], List.mem_singleton_self _, rest, hash, ends⟩
  · rintro ⟨opening, isDirective, rest, whole, ends⟩
    obtain rfl := List.mem_singleton.1 isDirective
    exact ⟨⟨rest, whole⟩, ends⟩

theorem seek_word_iff {word : List Char}
    (solid : word.head?.any (fun c => !Unicode.isBlank c) = true)
    (inside : progress.position ≤ input.size) :
    (seq (star 0 (oneOf Unicode.blanks) true) (text word)).seek input progress next = some value ↔
      ∃ blanks rest, (∀ c ∈ blanks, Unicode.isBlank c = true) ∧
        ahead input progress.position = blanks ++ (word ++ rest) ∧
        next (progress.forward (blanks.length + word.length)) = some value := by
  obtain ⟨first, isFirst, firstSolid⟩ := (Option.any_eq_true ..).1 solid
  obtain ⟨word, rfl⟩ := List.head?_eq_some_iff.1 isFirst
  rw [Bool.not_eq_true'] at firstSolid
  have fails : ∀ count < runLength input Unicode.blanks progress.position,
      (text (first :: word)).seek input (progress.forward count) next = none := by
    intro count inRun
    obtain ⟨c, rest, here, blank⟩ := ahead_of_lt_runLength inRun
    rw [Unicode.contains_blanks] at blank
    refine Option.eq_none_iff_forall_ne_some.2 fun other found => ?_
    obtain ⟨⟨more, stands⟩, -⟩ := (seek_text_iff _).1 found
    cases here.symm.trans stands
    exact Bool.false_ne_true (firstSolid.symm.trans blank)
  rw [seek, seek_star_whole inside fails, seek_text_iff]
  constructor
  · rintro ⟨⟨rest, stands⟩, ends⟩
    refine ⟨(ahead input progress.position).takeWhile Unicode.blanks.contains, rest, ?_, ?_, ?_⟩
    · intro c member
      rw [← Unicode.contains_blanks]
      exact List.mem_takeWhile_imp member
    · have behind := ahead_runLength input Unicode.blanks progress.position
      rw [← stands, Progress.forward, behind, List.takeWhile_append_dropWhile]
    · rw [Progress.forward, ← Nat.add_assoc]
      exact ends
  · rintro ⟨blanks, rest, all, here, ends⟩
    have length : runLength input Unicode.blanks progress.position = blanks.length := by
      refine runLength_of_append here (fun c member => ?_) fun c member => ?_
      · rw [Unicode.contains_blanks]
        exact all c member
      · cases member
        rw [Unicode.contains_blanks]
        exact firstSolid
    rw [length]
    refine ⟨⟨rest, ahead_of_append here⟩, ?_⟩
    rw [Progress.forward, ← Nat.add_assoc] at ends
    exact ends

theorem seek_begins_iff {openings : List (List Char)} {opener : Plan} {word : String}
    (solid : word.toList.head?.any (fun c => !Unicode.isBlank c) = true)
    (opens : ∀ {next : Progress → Option α}, opener.seek input ⟨0, []⟩ next = some value ↔
      ∃ opening ∈ openings, ∃ rest, input.toList = opening ++ rest ∧
        next ⟨opening.length, []⟩ = some value) (next : Progress → Option α) :
    (seq opener (seq (star 0 (oneOf Unicode.blanks) true) (text word.toList))).seek input ⟨0, []⟩
        next = some value ↔
      ∃ rest, Begins openings word input.toList rest ∧
        next ⟨input.size - rest.length, []⟩ = some value := by
  have place : ∀ opening blanks rest, input.toList = opening ++ (blanks ++ (word.toList ++ rest)) →
      opening.length + (blanks.length + word.toList.length) = input.size - rest.length := by
    intro opening blanks rest whole
    have size := congrArg List.length whole
    simp only [Array.length_toList, List.length_append] at size
    omega
  have here : ∀ opening more, input.toList = opening ++ more →
      ahead input opening.length = more ∧ opening.length ≤ input.size := by
    intro opening more whole
    have size := congrArg List.length whole
    rw [Array.length_toList, List.length_append] at size
    exact ⟨by rw [ahead, whole, List.drop_left], by omega⟩
  rw [seek, opens]
  constructor
  · rintro ⟨opening, isOpening, more, whole, found⟩
    obtain ⟨stands, inside⟩ := here opening more whole
    have known : (⟨opening.length, []⟩ : Progress).position ≤ input.size := inside
    obtain ⟨blanks, rest, all, split, ends⟩ := (seek_word_iff solid known).1 found
    obtain rfl : more = blanks ++ (word.toList ++ rest) := stands.symm.trans split
    rw [Progress.forward, place opening blanks rest whole] at ends
    exact ⟨rest, ⟨opening, isOpening, blanks, all, whole⟩, ends⟩
  · rintro ⟨rest, ⟨opening, isOpening, blanks, all, whole⟩, ends⟩
    obtain ⟨stands, inside⟩ := here opening _ whole
    have known : (⟨opening.length, []⟩ : Progress).position ≤ input.size := inside
    refine ⟨opening, isOpening, _, whole, (seek_word_iff solid known).2
      ⟨blanks, rest, all, stands, ?_⟩⟩
    rw [Progress.forward, place opening blanks rest whole]
    exact ends

end Openings

end Marker

end CodeFolding
