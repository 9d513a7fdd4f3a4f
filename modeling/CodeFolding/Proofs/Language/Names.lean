import CodeFolding.Proofs.Language.Marks

set_option autoImplicit false

namespace CodeFolding

namespace Marker

open Plan

variable {α : Type} {input : Array Char} {progress : Progress} {next : Progress → Option α}
  {value : α}

theorem seek_textEnd (inside : progress.position ≤ input.size) :
    (boundary .textEnd).seek input progress next =
      if ahead input progress.position = [] then next progress else none := by
  have ends : Boundary.holds .textEnd input progress.position = true ↔
      ahead input progress.position = [] := by
    rw [← List.length_eq_zero_iff, length_ahead]
    change (progress.position == input.size) = true ↔ _
    rw [beq_iff_eq]
    omega
  rw [seek]
  simp only [ends]

def closing : Plan :=
  seq (seq empty (once 2 (alt (seq (group 2 (text ['*', '/'])) empty) empty)))
    (boundary .textEnd)

/-- The match behind the end of a comment. -/
def closed (progress : Progress) : Progress :=
  ⟨progress.position + 2, (2, ⟨progress.position, progress.position + 2⟩) :: progress.groups⟩

/-- Behind the name the comment ends, with or without closing. -/
theorem seek_closing_iff (inside : progress.position ≤ input.size) :
    closing.seek input progress next = some value ↔
      ahead input progress.position = ['*', '/'] ∧ next (closed progress) = some value ∨
        ahead input progress.position = [] ∧ next progress = some value := by
  have closes : (text ['*', '/']).seek input progress (fun later => (boundary .textEnd).seek input
      { later with groups := (2, ⟨progress.position, later.position⟩) :: later.groups } next) =
        some value ↔
      ahead input progress.position = ['*', '/'] ∧ next (closed progress) = some value := by
    have atEnd : ∀ rest, ahead input progress.position = ['*', '/'] ++ rest →
        (boundary .textEnd).seek input (closed progress) next =
          if rest = [] then next (closed progress) else none := by
      intro rest stands
      have behind : ahead input (closed progress).position = rest := ahead_of_append stands
      have length := length_ahead input progress.position
      rw [stands, List.length_append] at length
      have known : (closed progress).position ≤ input.size := by
        change progress.position + 2 ≤ input.size
        change 2 + rest.length = _ at length
        omega
      rw [seek_textEnd known, behind]
    rw [seek_text_iff]
    constructor
    · rintro ⟨⟨rest, stands⟩, found⟩
      have ends := (atEnd rest stands).symm.trans found
      split at ends
      · rename_i none
        exact ⟨by rw [stands, none]; rfl, ends⟩
      · exact nomatch ends
    · rintro ⟨stands, ends⟩
      exact ⟨⟨[], stands⟩, (atEnd [] stands).trans ends⟩
  have either : closing.seek input progress next =
      ((text ['*', '/']).seek input progress fun later => (boundary .textEnd).seek input
        { later with groups := (2, ⟨progress.position, later.position⟩) :: later.groups } next).or
      ((boundary .textEnd).seek input progress next) := rfl
  rw [either, Option.or_eq_some_iff, closes, seek_textEnd inside]
  constructor
  · rintro (first | ⟨-, second⟩)
    · exact Or.inl first
    · split at second
      · rename_i none
        exact Or.inr ⟨none, second⟩
      · exact nomatch second
  · rintro (first | ⟨none, second⟩)
    · exact Or.inl first
    · refine Or.inr ⟨?_, by rw [if_pos none, second]⟩
      refine Option.eq_none_iff_forall_ne_some.2 fun other found => ?_
      obtain ⟨⟨rest, stands⟩, -⟩ := (seek_text_iff _).1 found
      exact nomatch none.symm.trans stands

theorem seek_closing_eq_none (solid : ahead input progress.position ≠ [])
    (unclosed : ahead input progress.position ≠ ['*', '/']) :
    closing.seek input progress next = none := by
  refine Option.eq_none_iff_forall_ne_some.2 fun value found => ?_
  rcases (seek_closing_iff (le_size_of_ahead solid)).1 found with ⟨closes, -⟩ | ⟨empty, -⟩
  · exact unclosed closes
  · exact solid empty

theorem withoutClosing_append {name : List Char} (filled : name ≠ []) :
    withoutClosing (name ++ ['*', '/']) = name := by
  have length := List.length_pos_iff.2 filled
  rw [withoutClosing, if_pos ⟨by rw [List.length_append]; exact Nat.add_le_add_right length 2,
    name, rfl⟩, List.length_append]
  exact List.take_left

/-- The name is what stands in front of the end of the comment, and of the shortest such texts. -/
theorem withoutClosing_spec {rest : List Char} (filled : rest ≠ []) :
    withoutClosing rest ≠ [] ∧ ∃ behind, rest = withoutClosing rest ++ behind ∧
      (behind = [] ∨ behind = ['*', '/']) ∧
      ∀ front back, rest = front ++ back → front ≠ [] →
        front.length < (withoutClosing rest).length → back ≠ [] ∧ back ≠ ['*', '/'] := by
  by_cases closes : 3 ≤ rest.length ∧ ['*', '/'] <:+ rest
  · obtain ⟨long, name, rfl⟩ := closes
    have some : name ≠ [] := by
      rintro rfl
      exact absurd long (by decide)
    rw [withoutClosing_append some]
    refine ⟨some, _, rfl, Or.inr rfl, fun front back whole isFront shorter => ?_⟩
    have length := congrArg List.length whole
    rw [List.length_append, List.length_append] at length
    change name.length + 2 = _ at length
    constructor
    · rintro rfl
      rw [List.length_nil] at length
      omega
    · rintro rfl
      change name.length + 2 = front.length + 2 at length
      omega
  · rw [withoutClosing, if_neg closes]
    refine ⟨filled, [], (List.append_nil rest).symm, Or.inl rfl, fun front back whole isFront
      shorter => ⟨?_, ?_⟩⟩
    · rintro rfl
      rw [whole, List.append_nil] at shorter
      exact Nat.lt_irrefl _ shorter
    · rintro rfl
      refine closes ⟨?_, front, whole.symm⟩
      have length := List.length_pos_iff.2 isFront
      rw [whole, List.length_append]
      exact Nat.add_le_add_right length 2

theorem seek_commentName (position : Nat) (next : Progress → Option α) :
    commentName.seek input ⟨position, []⟩ next =
      (oneOf inLine).seek input ⟨position, []⟩ fun first =>
        (star 1 (oneOf inLine) false).seek input first fun later =>
          closing.seek input
            { later with groups := (1, ⟨position, later.position⟩) :: later.groups } next :=
  rfl

theorem exists_seek_commentName {position : Nat} {rest : List Char}
    (here : ahead input position = rest) (filled : rest ≠ []) (oneLine : '\n' ∉ rest)
    (finish : Progress → α) :
    ∃ done : Progress, done.groups.lookup 1 =
        some ⟨position, position + (withoutClosing rest).length⟩ ∧
      commentName.seek input ⟨position, []⟩ (fun done => some (finish done)) =
        some (finish done) := by
  obtain ⟨isName, behind, whole, closes, shortest⟩ := withoutClosing_spec filled
  generalize withoutClosing rest = name at isName whole shortest ⊢
  have positive := List.length_pos_iff.2 isName
  obtain ⟨first, more, rfl⟩ := List.exists_cons_of_ne_nil filled
  have inside := lt_size_of_ahead here
  have allInLine : ∀ c ∈ first :: more, inLine.contains c = true := by
    intro c member
    refine (contains_inLine c).2 ?_
    rintro rfl
    exact oneLine member
  have second : ahead input (position + 1) = more ++ [] := by
    rw [ahead_of_cons here, List.append_nil]
  have run : runLength input inLine (position + 1) = more.length :=
    runLength_of_append second (fun c member => allInLine c (List.mem_cons_of_mem first member))
      fun c none => nomatch none
  have length := congrArg List.length whole
  rw [List.length_cons, List.length_append] at length
  have place : position + 1 + (name.length - 1) = position + name.length := by omega
  have atEnd : ahead input (position + name.length) = behind := ahead_of_append (here.trans whole)
  -- The match at the end of the name.
  let named : Progress := ⟨position + name.length, [(1, ⟨position, position + name.length⟩)]⟩
  have known : named.position ≤ input.size := by
    have size := length_ahead input position
    rw [here, List.length_cons] at size
    change position + name.length ≤ input.size
    omega
  obtain ⟨done, lookup, ends⟩ : ∃ done : Progress, done.groups.lookup 1 =
      some ⟨position, position + name.length⟩ ∧
        closing.seek input named (fun done => some (finish done)) = some (finish done) := by
    rcases closes with rfl | rfl
    · exact ⟨named, rfl, (seek_closing_iff known).2 (Or.inr ⟨atEnd, rfl⟩)⟩
    · exact ⟨closed named, rfl, (seek_closing_iff known).2 (Or.inl ⟨atEnd, rfl⟩)⟩
  refine ⟨done, lookup, ?_⟩
  rw [seek_commentName, seek_oneOf_of_mem here (allInLine first List.mem_cons_self)]
  refine seek_star_lazy (name.length - 1) inside ?_ ?_ ?_
  · change name.length - 1 ≤ runLength input inLine (position + 1)
    omega
  · rw [Progress.forward, Progress.forward, place]
    exact ends
  · intro fewer less
    have split : (first :: more).take (fewer + 1) ++ (first :: more).drop (fewer + 1) =
        first :: more := List.take_append_drop ..
    have front : ((first :: more).take (fewer + 1)).length = fewer + 1 := by
      rw [List.length_take, List.length_cons]
      omega
    obtain ⟨solid, unclosed⟩ := shortest _ _ split.symm (by
      rw [← List.length_pos_iff, front]
      exact Nat.succ_pos fewer) (by omega)
    have stands : ahead input (position + 1 + fewer) = (first :: more).drop (fewer + 1) := by
      have behind := ahead_of_append (here.trans split.symm)
      rwa [front, Nat.add_comm fewer, ← Nat.add_assoc, Nat.add_comm 1] at behind
    rw [← stands] at solid unclosed
    exact seek_closing_eq_none solid unclosed

/-- A comment that ends right away or goes on with a line feed somewhere has none. -/
theorem seek_commentName_eq_none {position : Nat} {rest : List Char}
    (here : ahead input position = rest) (fails : rest = [] ∨ '\n' ∈ rest) :
    commentName.seek input ⟨position, []⟩ next = none := by
  have feed : inLine.contains '\n' = false := by decide
  rw [seek_commentName]
  rcases run_cases input inLine position with ⟨-, stops⟩ | ⟨c, more, stands, isInLine, -⟩
  · exact seek_oneOf_of_not_mem stops
  · rw [seek_oneOf_of_mem stands isInLine]
    have member : '\n' ∈ ahead input (position + 1) := by
      rw [ahead_of_cons stands]
      rw [here] at stands
      subst stands
      rcases fails with none | member
      · exact nomatch none
      · refine (List.mem_cons.1 member).resolve_left ?_
        rintro rfl
        exact Bool.false_ne_true (feed.symm.trans isInLine)
    have inside : ((⟨position, []⟩ : Progress).forward 1).position ≤ input.size :=
      lt_size_of_ahead stands
    refine (seek_star_eq_none_iff inside).2 fun count inRun => ?_
    have further : '\n' ∈ ahead input (position + 1 + count) :=
      mem_ahead_of_le_runLength member feed inRun
    refine seek_closing_eq_none (List.ne_nil_of_mem further) fun closes => ?_
    have inClosing : '\n' ∈ ['*', '/'] := closes ▸ further
    exact absurd inClosing (by decide)

def trailing : Plan :=
  seq (star 3 (oneOf spaces) true) (boundary .textEnd)

theorem seek_trailing_of_spaces {rest : List Char} (inside : progress.position ≤ input.size)
    (here : ahead input progress.position = rest) (all : ∀ c ∈ rest, isSpace c = true) :
    trailing.seek input progress next = next ⟨input.size, progress.groups⟩ := by
  have run : runLength input spaces progress.position = rest.length := by
    refine runLength_of_append (here.trans (List.append_nil rest).symm) ?_ fun c no => nomatch no
    intro c member
    rw [contains_spaces]
    exact all c member
  have length := length_ahead input progress.position
  rw [here] at length
  have reached : progress.forward rest.length = ⟨input.size, progress.groups⟩ := by
    rw [Progress.forward, length, Nat.add_sub_cancel' inside]
  have fails : ∀ count < runLength input spaces progress.position,
      (boundary .textEnd).seek input (progress.forward count) next = none := by
    intro count inRun
    obtain ⟨c, more, stands, -⟩ := ahead_of_lt_runLength inRun
    rw [seek_textEnd (Nat.le_of_lt (lt_size_of_ahead stands)),
      if_neg (List.ne_nil_of_mem (stands ▸ List.mem_cons_self))]
  rw [trailing, seek, seek_star_whole inside fails, run, reached, seek_textEnd (Nat.le_refl _),
    if_pos]
  refine List.eq_nil_of_length_eq_zero ?_
  rw [length_ahead, Nat.sub_self]

theorem seek_trailing_eq_none {c : Char} (member : c ∈ ahead input progress.position)
    (solid : isSpace c = false) : trailing.seek input progress next = none := by
  have inside := le_size_of_ahead (List.ne_nil_of_mem member)
  rw [← contains_spaces] at solid
  rw [trailing, seek, seek_star_eq_none_iff inside]
  intro count inRun
  have further : c ∈ ahead input (progress.forward count).position :=
    mem_ahead_of_le_runLength member solid inRun
  rw [seek_textEnd ((Nat.add_le_add_left inRun _).trans (add_runLength_le inside)),
    if_neg (List.ne_nil_of_mem further)]

theorem seek_directiveName (position : Nat) (next : Progress → Option α) :
    directiveName.seek input ⟨position, []⟩ next =
      (star 1 (oneOf spaces) true).seek input ⟨position, []⟩ fun lead =>
        (star 2 (oneOf inLine) false).seek input lead fun later => trailing.seek input
          { later with groups := (1, ⟨lead.position, later.position⟩) :: later.groups } next :=
  rfl

/-- Behind the spaces and tabs in front, the name reaches up to those at the end. -/
theorem seek_named {position : Nat} {rest : List Char} (inside : position ≤ input.size)
    (here : ahead input position = rest) (oneLine : '\n' ∉ rest) (finish : Progress → α) :
    ((star 2 (oneOf inLine) false).seek input ⟨position, []⟩ fun later => trailing.seek input
      { later with groups := (1, ⟨position, later.position⟩) :: later.groups }
        fun done => some (finish done)) = some (finish
          ⟨input.size, [(1, ⟨position, position + (rest.rdropWhile isSpace).length⟩)]⟩) := by
  have whole : rest.rdropWhile isSpace ++ rest.rtakeWhile isSpace = rest :=
    List.rdropWhile_append_rtakeWhile ..
  have run : runLength input inLine position = rest.length := by
    refine runLength_of_append (here.trans (List.append_nil rest).symm) ?_ fun c no => nomatch no
    intro c member
    refine (contains_inLine c).2 ?_
    rintro rfl
    exact oneLine member
  have shorter := (List.rdropWhile_prefix isSpace (l := rest)).length_le
  have length := length_ahead input position
  rw [here] at length
  have inName : ((⟨position, []⟩ : Progress)).position ≤ input.size := inside
  refine seek_star_lazy (rest.rdropWhile isSpace).length inName (run ▸ shorter) ?_ ?_
  · refine (seek_trailing_of_spaces ?_ (ahead_of_append (here.trans whole.symm)) ?_).trans rfl
    · change position + _ ≤ _
      omega
    · exact fun c member => List.mem_rtakeWhile_imp member
  · intro fewer less
    have left : (rest.rdropWhile isSpace).drop fewer ≠ [] := by
      rw [Ne, List.drop_eq_nil_iff]
      omega
    have isName : rest.rdropWhile isSpace ≠ [] := fun none => left (by rw [none, List.drop_nil])
    have solid : isSpace ((rest.rdropWhile isSpace).getLast isName) = false :=
      Bool.eq_false_iff.2 (List.rdropWhile_last_not isSpace rest isName)
    have stands : ahead input (position + fewer) =
        (rest.rdropWhile isSpace).drop fewer ++ rest.rtakeWhile isSpace := by
      rw [ahead_add, here, ← List.drop_append_of_le_length (Nat.le_of_lt less), whole]
    have member : (rest.rdropWhile isSpace).getLast isName ∈
        (rest.rdropWhile isSpace).drop fewer := by
      rw [← List.getLast_drop left]
      exact List.getLast_mem left
    exact seek_trailing_eq_none (stands ▸ List.mem_append_left _ member) solid

/-- A directive that goes on without a line feed has a name between spaces and tabs, which may be
empty. -/
theorem exists_seek_directiveName {position : Nat} {rest : List Char}
    (inside : position ≤ input.size) (here : ahead input position = rest)
    (oneLine : '\n' ∉ rest) (finish : Progress → α) :
    ∃ start, ahead input start = rest.dropWhile isSpace ∧
      directiveName.seek input ⟨position, []⟩ (fun done => some (finish done)) =
        some (finish ⟨input.size, [(1, ⟨start, start + (stripped rest).length⟩)]⟩) := by
  have behind := ahead_runLength input spaces position
  rw [here, show spaces.contains = isSpace from funext contains_spaces] at behind
  refine ⟨_, behind, ?_⟩
  rw [seek_directiveName]
  have inText : (⟨position, []⟩ : Progress).position ≤ input.size := inside
  refine seek_star_greedy inText ?_
  refine seek_named (add_runLength_le inside) behind ?_ finish
  exact fun member => oneLine ((List.dropWhile_suffix isSpace).mem member)

theorem seek_directiveName_eq_none {position : Nat} (member : '\n' ∈ ahead input position) :
    directiveName.seek input ⟨position, []⟩ next = none := by
  rw [seek_directiveName]
  have inText : (⟨position, []⟩ : Progress).position ≤ input.size :=
    le_size_of_ahead (List.ne_nil_of_mem member)
  refine (seek_star_eq_none_iff inText).2 fun count inSpaces => ?_
  have further : '\n' ∈ ahead input ((⟨position, []⟩ : Progress).forward count).position :=
    mem_ahead_of_le_runLength member (by decide) inSpaces
  refine (seek_star_eq_none_iff (le_size_of_ahead (List.ne_nil_of_mem further))).2
    fun others inLine => ?_
  exact seek_trailing_eq_none (mem_ahead_of_le_runLength further (by decide) inLine) (by decide)

end Marker

end CodeFolding
