import CodeFolding.Outline

set_option autoImplicit false

namespace CodeFolding

/-- An opening or a closing mark at a position of a text. An opener has the number of the region
that it opens, and a closer the offset at which a region ends there. -/
inductive Delimiter where
  | opener (id : Nat) (kind : Region.Kind) (position : Nat)
  | closer (kind : Region.Kind) (position stop : Nat)
deriving DecidableEq, Inhabited, Repr

namespace Delimiter

open Outline (rootId)

/-- The number of the region that a mark opens. -/
def id? : Delimiter → Option Nat
  | opener id _ _ => some id
  | closer _ _ _ => none

def position : Delimiter → Nat
  | opener _ _ position => position
  | closer _ position _ => position

/-- The marks left when every closer is deleted that comes while the innermost opener of another
kind is unclosed, or none is. The kinds of the unclosed openers are `unclosed`, from the inside
out. -/
def matched : List Region.Kind → List Delimiter → List Delimiter
  | _, [] => []
  | unclosed, opener id kind position :: rest =>
    opener id kind position :: matched (kind :: unclosed) rest
  | [], closer _ _ _ :: rest => matched [] rest
  | innermost :: outer, closer kind position stop :: rest =>
    if innermost = kind then closer kind position stop :: matched outer rest
    else matched (innermost :: outer) rest

/-- Each opener has a closer of its kind behind it, with a balanced sequence between them. -/
inductive Balanced : List Delimiter → Prop
  | nil : Balanced []
  | pair {id position place stop : Nat} {kind : Region.Kind} {inner rest : List Delimiter}
      (inside : Balanced inner) (behind : Balanced rest) :
      Balanced (opener id kind position :: (inner ++ closer kind place stop :: rest))

/-- Balanced, but for openers that nothing closes. -/
inductive WellNested : List Delimiter → Prop
  | balanced {marks : List Delimiter} (whole : Balanced marks) : WellNested marks
  | unclosed {id position : Nat} {kind : Region.Kind} {front rest : List Delimiter}
      (before : Balanced front) (behind : WellNested rest) :
      WellNested (front ++ opener id kind position :: rest)

/-- The number of the innermost opener that is not closed at the end of a sequence, or that of the
root if all are closed. -/
inductive Around : List Delimiter → Nat → Prop
  | root {marks : List Delimiter} (closed : Balanced marks) : Around marks rootId
  | inner {id position : Nat} {kind : Region.Kind} {front inner : List Delimiter}
      (closed : Balanced inner) : Around (front ++ opener id kind position :: inner) id

/-- What is opened in front of `marks` with the kind `kind` is closed there, and ends at `stop`. -/
def Closes (kind : Region.Kind) (stop : Nat) (marks : List Delimiter) : Prop :=
  ∃ inner place rest, Balanced inner ∧ marks = inner ++ closer kind place stop :: rest

def openers (marks : List Delimiter) : Nat :=
  marks.countP fun mark => mark.id?.isSome

def closers (marks : List Delimiter) : Nat :=
  marks.countP fun mark => mark.id?.isNone

section Counts

variable (id position place stop : Nat) (kind : Region.Kind) (front rest : List Delimiter)

@[simp] theorem openers_opener : openers (opener id kind position :: rest) = openers rest + 1 := by
  simp only [openers, List.countP_cons, id?, Option.isSome_some, ↓reduceIte]

@[simp] theorem closers_opener : closers (opener id kind position :: rest) = closers rest := by
  simp only [closers, List.countP_cons, id?, Option.isNone_some, Bool.false_eq_true, ↓reduceIte,
    Nat.add_zero]

@[simp] theorem openers_closer : openers (closer kind place stop :: rest) = openers rest := by
  simp only [openers, List.countP_cons, id?, Option.isSome_none, Bool.false_eq_true, ↓reduceIte,
    Nat.add_zero]

@[simp] theorem closers_closer :
    closers (closer kind place stop :: rest) = closers rest + 1 := by
  simp only [closers, List.countP_cons, id?, Option.isNone_none, ↓reduceIte]

@[simp] theorem openers_append : openers (front ++ rest) = openers front + openers rest :=
  List.countP_append

@[simp] theorem closers_append : closers (front ++ rest) = closers front + closers rest :=
  List.countP_append

end Counts

/-- No more closers than openers have come at any place of the sequence. -/
def Grounded (marks : List Delimiter) : Prop :=
  ∀ front rest, marks = front ++ rest → closers front ≤ openers front

namespace Grounded

variable {front rest inner marks : List Delimiter}

theorem append (first : Grounded front) (second : Grounded rest) : Grounded (front ++ rest) := by
  intro start left same
  rcases List.append_eq_append_iff.1 same with ⟨more, rfl, split⟩ | ⟨more, split, rfl⟩
  · have inFirst := first front [] (List.append_nil front).symm
    have inSecond := second more left split
    simp only [openers_append, closers_append]
    omega
  · exact first start more split

theorem opener (grounded : Grounded rest) (id position : Nat) (kind : Region.Kind) :
    Grounded (opener id kind position :: rest) := by
  intro start left same
  cases start with
  | nil => exact Nat.le_refl _
  | cons first start =>
    rw [List.cons_append, List.cons.injEq] at same
    have inRest := grounded start left same.2
    rw [← same.1, openers_opener, closers_opener]
    omega

end Grounded

namespace Balanced

variable {marks front rest inner : List Delimiter}

theorem append (first : Balanced front) (second : Balanced rest) : Balanced (front ++ rest) := by
  induction first with
  | nil => exact second
  | pair inside _ _ ih =>
    rw [List.cons_append, List.append_assoc, List.cons_append]
    exact .pair inside ih

theorem closers_eq (balanced : Balanced marks) : closers marks = openers marks := by
  induction balanced with
  | nil => rfl
  | pair _ _ inside behind =>
    simp only [openers_opener, closers_opener, openers_append, closers_append, openers_closer,
      closers_closer]
    omega

theorem grounded (balanced : Balanced marks) : Grounded marks := by
  induction balanced with
  | nil =>
    intro front rest same
    rw [(List.append_eq_nil_iff.1 same.symm).1]
    exact Nat.le_refl _
  | @pair id position place stop kind inner rest closed _ inside behind =>
    intro front left same
    cases front with
    | nil => exact Nat.le_refl _
    | cons first front =>
      rw [List.cons_append, List.cons.injEq] at same
      rw [← same.1, openers_opener, closers_opener]
      rcases List.append_eq_append_iff.1 same.2 with ⟨more, rfl, split⟩ | ⟨more, split, -⟩
      · -- The place is behind the inner part, whose openers are all closed.
        cases more with
        | nil =>
          have within := closed.closers_eq
          rw [List.append_nil]
          omega
        | cons mark more =>
          rw [List.cons_append, List.cons.injEq] at split
          have within := closed.closers_eq
          have further := behind more left split.2
          rw [← split.1]
          simp only [openers_append, closers_append, openers_closer, closers_closer]
          omega
      · have within := inside front more split
        omega

theorem not_inside (closed : Balanced inner) (id position : Nat) (kind : Region.Kind) :
    ¬ Balanced (front ++ opener id kind position :: inner) := by
  intro whole
  have total := whole.closers_eq
  have before := whole.grounded front _ rfl
  have within := closed.closers_eq
  simp only [openers_append, closers_append, openers_opener, closers_opener] at total
  omega

end Balanced

/-- Behind a balanced sequence a closer belongs to an opener in front of it. -/
theorem Balanced.not_grounded_closer {inner : List Delimiter} (inside : Balanced inner)
    (kind : Region.Kind) (place stop : Nat) (rest : List Delimiter) :
    ¬ Grounded (inner ++ closer kind place stop :: rest) := by
  intro grounded
  have split : inner ++ closer kind place stop :: rest =
      (inner ++ [closer kind place stop]) ++ rest := by
    rw [List.append_assoc, List.singleton_append]
  have counts := grounded _ rest split
  have within := inside.closers_eq
  simp only [openers_append, closers_append, openers_closer, closers_closer] at counts
  change closers inner + (0 + 1) ≤ openers inner + 0 at counts
  omega

namespace Closes

variable {kind : Region.Kind} {stop : Nat} {marks : List Delimiter}

theorem not_grounded (closes : Closes kind stop marks) : ¬ Grounded marks := by
  obtain ⟨inner, place, rest, inside, rfl⟩ := closes
  exact inside.not_grounded_closer kind place stop rest

theorem append (closes : Closes kind stop marks) (more : List Delimiter) :
    Closes kind stop (marks ++ more) := by
  obtain ⟨inner, place, rest, inside, rfl⟩ := closes
  exact ⟨inner, place, rest ++ more, inside, by rw [List.append_assoc, List.cons_append]⟩

theorem unique {other : Region.Kind} {last : Nat} (left : Closes kind stop marks)
    (right : Closes other last marks) : stop = last := by
  obtain ⟨inner, place, rest, inside, rfl⟩ := left
  obtain ⟨inner', place', rest', inside', same⟩ := right
  rcases List.append_eq_append_iff.1 same with ⟨more, rfl, split⟩ | ⟨more, rfl, split⟩
  · cases more with
    | nil =>
      rw [List.nil_append, List.cons.injEq, closer.injEq] at split
      exact split.1.2.2
    | cons mark more =>
      rw [List.cons_append, List.cons.injEq] at split
      rw [← split.1] at inside'
      exact absurd inside'.grounded (inside.not_grounded_closer kind place stop more)
  · cases more with
    | nil =>
      rw [List.nil_append, List.cons.injEq, closer.injEq] at split
      exact split.1.2.2.symm
    | cons mark more =>
      rw [List.cons_append, List.cons.injEq] at split
      rw [← split.1] at inside
      exact absurd inside.grounded (inside'.not_grounded_closer other place' last more)

end Closes

theorem Around.unique {marks : List Delimiter} {one two : Nat} (left : Around marks one)
    (right : Around marks two) : one = two := by
  cases left with
  | root closed =>
    cases right with
    | root => rfl
    | inner closed' => exact absurd closed (closed'.not_inside _ _ _)
  | @inner _ position kind front inner closed =>
    generalize same : front ++ opener one kind position :: inner = marks at right
    cases right with
    | root whole =>
      rw [← same] at whole
      exact absurd whole (closed.not_inside _ _ _)
    | @inner _ position' kind' front' inner' closed' =>
      rcases List.append_eq_append_iff.1 same with ⟨more, rfl, split⟩ | ⟨more, rfl, split⟩
      · cases more with
        | nil =>
          rw [List.nil_append, List.cons.injEq, opener.injEq] at split
          exact split.1.1
        | cons mark more =>
          rw [List.cons_append, List.cons.injEq] at split
          rw [split.2] at closed
          exact absurd closed (closed'.not_inside _ _ _)
      · cases more with
        | nil =>
          rw [List.nil_append, List.cons.injEq, opener.injEq] at split
          exact split.1.1.symm
        | cons mark more =>
          rw [List.cons_append, List.cons.injEq] at split
          rw [split.2] at closed'
          exact absurd closed' (closed.not_inside _ _ _)

theorem WellNested.balanced_append {front rest : List Delimiter} (behind : WellNested rest)
    (before : Balanced front) : WellNested (front ++ rest) := by
  cases behind with
  | balanced whole => exact .balanced (before.append whole)
  | unclosed first behind =>
    rw [← List.append_assoc]
    exact .unclosed (before.append first) behind

/-- The openers `unclosed` of a sequence are not closed, from the inside out, and all others
are. -/
inductive Pending : List Delimiter → List Nat → Prop
  | none {marks : List Delimiter} (closed : Balanced marks) : Pending marks []
  | cons {id position : Nat} {kind : Region.Kind} {front inner : List Delimiter}
      {outer : List Nat} (around : Pending front outer) (closed : Balanced inner) :
      Pending (front ++ opener id kind position :: inner) (id :: outer)

namespace Pending

variable {marks : List Delimiter} {unclosed : List Nat}

theorem around (pending : Pending marks unclosed) : Around marks (unclosed.headD rootId) := by
  cases pending with
  | none closed => exact .root closed
  | cons _ closed => exact .inner closed

theorem append {more : List Delimiter} (pending : Pending marks unclosed)
    (closed : Balanced more) : Pending (marks ++ more) unclosed := by
  cases pending with
  | none whole => exact .none (whole.append closed)
  | cons around inside =>
    rw [List.append_assoc, List.cons_append]
    exact .cons around (inside.append closed)

theorem opener (pending : Pending marks unclosed) (id position : Nat) (kind : Region.Kind) :
    Pending (marks ++ [opener id kind position]) (id :: unclosed) :=
  .cons pending .nil

theorem eq_nil_of_balanced (pending : Pending marks unclosed) (balanced : Balanced marks) :
    unclosed = [] := by
  cases pending with
  | none => rfl
  | cons _ closed => exact absurd balanced (closed.not_inside _ _ _)

theorem closer {id : Nat} {outer : List Nat} (pending : Pending marks (id :: outer))
    (place stop : Nat) :
    ∃ front kind position inner, marks = front ++ .opener id kind position :: inner ∧
      Balanced inner ∧ Pending (marks ++ [.closer kind place stop]) outer := by
  obtain _ | @⟨_, position, kind, front, inner, _, around, closed⟩ := pending
  refine ⟨front, kind, position, inner, rfl, closed, ?_⟩
  rw [List.append_assoc, List.cons_append]
  exact around.append (.pair closed .nil)

theorem wellNested (pending : Pending marks unclosed) {rest : List Delimiter}
    (behind : WellNested rest) : WellNested (marks ++ rest) := by
  induction pending generalizing rest with
  | none closed => exact behind.balanced_append closed
  | @cons id position kind front inner outer around closed ih =>
    rw [List.append_assoc, List.cons_append]
    apply ih
    rw [← List.nil_append (.opener id kind position :: (inner ++ rest))]
    exact .unclosed .nil (behind.balanced_append closed)

/-- An opener that is not closed has no more closers than openers behind it. -/
theorem grounded_of_mem (pending : Pending marks unclosed) {id : Nat} (member : id ∈ unclosed) :
    ∃ front kind position rest, marks = front ++ .opener id kind position :: rest ∧
      Grounded rest := by
  induction pending with
  | none => exact absurd member List.not_mem_nil
  | @cons innermost position kind front inner outer around closed ih =>
    rcases List.mem_cons.1 member with rfl | further
    · exact ⟨front, kind, position, inner, rfl, closed.grounded⟩
    · obtain ⟨before, sort, place, rest, rfl, grounded⟩ := ih further
      refine ⟨before, sort, place, rest ++ .opener innermost kind position :: inner, ?_, ?_⟩
      · rw [List.append_assoc, List.cons_append]
      · exact grounded.append (closed.grounded.opener _ _ _)

end Pending

/-- Deleting closers keeps the order of the others. -/
theorem matched_sublist (unclosed : List Region.Kind) (marks : List Delimiter) :
    (matched unclosed marks).Sublist marks := by
  fun_induction matched unclosed marks with
  | case1 => exact List.Sublist.slnil
  | case2 _ _ _ _ _ ih => exact ih.cons_cons _
  | case3 _ _ _ _ ih => exact ih.cons _
  | case4 _ _ _ _ _ ih => exact ih.cons_cons _
  | case5 _ _ _ _ _ _ _ ih => exact ih.cons _

theorem Balanced.matched_append {marks : List Delimiter} (balanced : Balanced marks)
    (unclosed : List Region.Kind) (rest : List Delimiter) :
    matched unclosed (marks ++ rest) = marks ++ matched unclosed rest := by
  induction balanced generalizing unclosed rest with
  | nil => rfl
  | pair _ _ inside behind =>
    simp only [List.cons_append, List.append_assoc, matched, inside, behind, ↓reduceIte]

/-- Of a sequence that is nested well up to openers that nothing closes, nothing is deleted. -/
theorem WellNested.matched_eq {marks : List Delimiter} (nested : WellNested marks)
    (unclosed : List Region.Kind) : matched unclosed marks = marks := by
  induction nested generalizing unclosed with
  | @balanced marks whole =>
    have same := whole.matched_append unclosed []
    simp only [List.append_nil, matched] at same
    exact same
  | unclosed before _ ih => rw [before.matched_append, matched, ih]

/-- The last mark of a sequence is the one it is divided at, or comes later. -/
theorem split_concat {marks before after : List Delimiter} {mark first : Delimiter}
    (same : marks ++ [mark] = before ++ first :: after) :
    marks = before ∧ mark = first ∧ after = [] ∨
      ∃ rest, marks = before ++ first :: rest ∧ after = rest ++ [mark] := by
  rcases List.eq_nil_or_concat after with rfl | ⟨rest, last, rfl⟩
  · obtain ⟨front, last⟩ := List.append_inj' same rfl
    exact Or.inl ⟨front, List.head_eq_of_cons_eq last, rfl⟩
  · rw [List.concat_eq_append, ← List.cons_append, ← List.append_assoc] at same
    obtain ⟨front, last⟩ := List.append_inj' same rfl
    rw [List.concat_eq_append, List.head_eq_of_cons_eq last]
    exact Or.inr ⟨rest, front, rfl⟩

/-- If all openers have different numbers, a sequence is divided at the opener of a number in one
way. -/
theorem split_unique {marks front rest front' rest' : List Delimiter} {id position place : Nat}
    {kind sort : Region.Kind} (distinct : (marks.filterMap id?).Nodup)
    (left : marks = front ++ opener id kind position :: rest)
    (right : marks = front' ++ opener id sort place :: rest') :
    front = front' ∧ kind = sort ∧ position = place ∧ rest = rest' := by
  subst left
  -- The opener of the one division would come a second time in the other.
  have twice : ∀ (first more last : List Delimiter) (one two : Nat) (left right : Region.Kind),
      ¬ ((first ++ opener id left one :: (more ++ opener id right two :: last)).filterMap
        id?).Nodup := by
    intro first more last one two left right
    simp only [List.filterMap_append, List.filterMap_cons, id?]
    intro nodup
    have inside := (List.nodup_append.1 nodup).2.1
    exact (List.nodup_cons.1 inside).1 (List.mem_append_right _ List.mem_cons_self)
  rcases List.append_eq_append_iff.1 right with ⟨more, rfl, split⟩ | ⟨more, rfl, split⟩
  · cases more with
    | nil =>
      rw [List.nil_append, List.cons.injEq, opener.injEq] at split
      exact ⟨(List.append_nil front).symm, split.1.2.1, split.1.2.2, split.2⟩
    | cons mark more =>
      rw [List.cons_append, List.cons.injEq] at split
      rw [split.2] at distinct
      exact absurd distinct (twice front more rest' position place kind sort)
  · cases more with
    | nil =>
      rw [List.nil_append, List.cons.injEq, opener.injEq] at split
      exact ⟨List.append_nil front', split.1.2.1.symm, split.1.2.2.symm, split.2.symm⟩
    | cons mark more =>
      rw [List.cons_append, List.cons.injEq] at split
      rw [List.append_assoc, List.cons_append, ← split.1] at distinct
      exact absurd distinct (twice front' more rest place position sort kind)

end Delimiter

end CodeFolding
