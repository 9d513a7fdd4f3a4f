import CodeFolding.Proofs.Language.Names
import CodeFolding.Proofs.Outline.Labels

set_option autoImplicit false

namespace CodeFolding

namespace Marker

open Plan

section Begins

variable {openings : List (List Char)} {word other : String} {text rest further : List Char}

theorem Begins.ahead (input : Array Char) (begins : Begins openings word input.toList rest) :
    Plan.ahead input (input.size - rest.length) = rest := by
  obtain ⟨opening, -, blanks, -, whole⟩ := begins
  have front : input.toList = opening ++ (blanks ++ word.toList) ++ rest := by
    rw [whole, List.append_assoc, List.append_assoc]
  exact ahead_of_suffix front

/-- White space in front of what does not begin with white space. -/
theorem dropWhile_blanks {blanks solid : List Char}
    (all : ∀ c ∈ blanks, Unicode.isBlank c = true)
    (isSolid : solid.head?.any (fun c => !Unicode.isBlank c) = true) :
    (blanks ++ solid).dropWhile Unicode.isBlank = solid := by
  obtain ⟨first, isFirst, firstSolid⟩ := (Option.any_eq_true ..).1 isSolid
  obtain ⟨solid, rfl⟩ := List.head?_eq_some_iff.1 isFirst
  rw [Bool.not_eq_true'] at firstSolid
  rw [List.dropWhile_append_of_pos all, List.dropWhile_cons_of_neg (Bool.eq_false_iff.1 firstSolid)]

/-- What stands behind an opening and white space is the same for all openings of one length. -/
theorem Begins.unique {size : Nat} (sizes : ∀ opening ∈ openings, opening.length = size)
    (begins : Begins openings word text rest) (also : Begins openings other text further)
    (solid : (word.toList ++ rest).head?.any (fun c => !Unicode.isBlank c) = true)
    (alsoSolid : (other.toList ++ further).head?.any (fun c => !Unicode.isBlank c) = true) :
    word.toList ++ rest = other.toList ++ further := by
  obtain ⟨opening, isOpening, blanks, all, rfl⟩ := begins
  obtain ⟨second, isSecond, others, alsoAll, same⟩ := also
  have length : opening.length = second.length :=
    (sizes opening isOpening).trans (sizes second isSecond).symm
  have behind := (List.append_inj same length).2
  rw [← dropWhile_blanks all solid, behind, dropWhile_blanks alsoAll alsoSolid]

/-- No comment both opens and closes a region. -/
theorem comment_apart (start : Begins comments "#region" text rest)
    (stop : Begins comments "#endregion" text further) : False := by
  have sizes : ∀ opening ∈ comments, opening.length = 2 := by decide
  have same := start.unique sizes stop rfl rfl
  have second := (List.cons.inj (List.cons.inj same).2).1
  exact absurd second (by decide)

theorem directive_apart (start : Begins directives "region" text rest)
    (stop : Begins directives "endregion" text further) : False := by
  have sizes : ∀ opening ∈ directives, opening.length = 1 := by decide
  have same := start.unique sizes stop rfl rfl
  have first := (List.cons.inj same).1
  exact absurd first (by decide)

end Begins

section Edges

variable {input : Array Char}

theorem isWordCharacter_n : isWordCharacter false 'n' = true := by
  decide +kernel

/-- Behind a character of a word, there is an edge unless another one follows. -/
theorem edge_holds_iff (continues : Char → Bool) (after? : Option Char) :
    WordEdge.edge.holds true (after?.any continues) = true ↔
      ∀ c ∈ after?, continues c = false := by
  cases after? with
  | none => simp [WordEdge.holds]
  | some c => simp [WordEdge.holds]

/-- Behind a word, there is an edge in front of what does not continue it. -/
theorem holds_edge_iff {front word rest : List Char} {letter : Char}
    (last : word.getLast? = some letter) (isWord : isWordCharacter false letter = true)
    (whole : input.toList = front ++ (word ++ rest)) :
    Boundary.holds (.word .edge false) input (input.size - rest.length) = true ↔
      EndsWord rest := by
  have size := congrArg List.length whole
  rw [Array.length_toList, List.length_append, List.length_append] at size
  have filled : word ≠ [] := by
    rintro rfl
    exact nomatch last
  have positive := List.length_pos_iff.2 filled
  have before : input[input.size - rest.length - 1]? = some letter := by
    have stands : ahead input front.length = word ++ rest := by
      rw [ahead, whole, List.drop_left]
    have found := getElem?_of_hasText ((hasText_iff word front.length).2 ⟨rest, stands⟩)
      (Nat.sub_lt positive Nat.one_pos)
    rw [← List.getLast?_eq_getElem?, last] at found
    have index : input.size - rest.length - 1 = front.length + (word.length - 1) := by omega
    rw [index, found]
  have after : input[input.size - rest.length]? = rest.head? := by
    rw [getElem?_eq_head?_ahead, ahead_of_suffix (whole.trans (List.append_assoc ..).symm)]
  have behind : input.size - rest.length ≠ 0 := by omega
  have edge : Boundary.holds (.word .edge false) input (input.size - rest.length) =
      WordEdge.edge.holds ((if input.size - rest.length = 0 then none
        else input[input.size - rest.length - 1]?).any (isWordCharacter false))
          (input[input.size - rest.length]?.any (isWordCharacter false)) := rfl
  rw [edge, if_neg behind, before, after, Option.any_some, isWord]
  exact edge_holds_iff ..

theorem Begins.edge_iff {openings : List (List Char)} {word : String} {rest : List Char}
    (input : Array Char) (begins : Begins openings word input.toList rest)
    (last : word.toList.getLast? = some 'n') :
    Boundary.holds (.word .edge false) input (input.size - rest.length) = true ↔
      EndsWord rest := by
  obtain ⟨opening, -, blanks, -, whole⟩ := begins
  exact holds_edge_iff last isWordCharacter_n (whole.trans (List.append_assoc ..).symm)

end Edges

section Searches

variable {input : Array Char} {found : Match}

theorem commentStartPlan_steady : commentStartPlan.Steady := by
  decide

theorem commentEndPlan_steady : commentEndPlan.Steady := by
  decide

theorem directiveStartPlan_steady : directiveStartPlan.Steady := by
  decide

theorem directiveEndPlan_steady : directiveEndPlan.Steady := by
  decide

theorem search?_commentStart_iff :
    commentStartPlan.search? input = some found ↔
      ∃ rest, Begins comments "#region" input.toList rest ∧
        (seq (oneOf Unicode.blanks) commentName).seek input ⟨input.size - rest.length, []⟩
          (fun done => some (done.toMatch 0)) = some found := by
  rw [commentStartPlan, inComment, search?_of_textStart commentStartPlan_steady]
  exact seek_begins_iff (by decide) seek_slashes_iff fun later =>
    (seq (oneOf Unicode.blanks) commentName).seek input later fun done => some (done.toMatch 0)

theorem search?_commentEnd_iff :
    commentEndPlan.search? input = some found ↔
      ∃ rest, Begins comments "#endregion" input.toList rest ∧
        some (Progress.toMatch 0 ⟨input.size - rest.length, []⟩) = some found := by
  rw [commentEndPlan, inComment, search?_of_textStart commentEndPlan_steady]
  exact seek_begins_iff (by decide) seek_slashes_iff fun done => some (done.toMatch 0)

theorem search?_directiveStart_iff :
    directiveStartPlan.search? input = some found ↔
      ∃ rest, Begins directives "region" input.toList rest ∧
        (seq (boundary (.word .edge false)) directiveName).seek input
          ⟨input.size - rest.length, []⟩ (fun done => some (done.toMatch 0)) = some found := by
  rw [directiveStartPlan, inDirective, search?_of_textStart directiveStartPlan_steady]
  exact seek_begins_iff (by decide) seek_hash_iff fun later =>
    (seq (boundary (.word .edge false)) directiveName).seek input later
      fun done => some (done.toMatch 0)

theorem search?_directiveEnd_iff :
    directiveEndPlan.search? input = some found ↔
      ∃ rest, Begins directives "endregion" input.toList rest ∧
        (boundary (.word .edge false)).seek input ⟨input.size - rest.length, []⟩
          (fun done => some (done.toMatch 0)) = some found := by
  rw [directiveEndPlan, inDirective, search?_of_textStart directiveEndPlan_steady]
  exact seek_begins_iff (by decide) seek_hash_iff fun later =>
    (boundary (.word .edge false)).seek input later fun done => some (done.toMatch 0)

end Searches

section Marks

/-- The name that a match gives: what its first group holds, or the text. -/
theorem nameIn?_of_search {plan : Plan} {text : String} {found : Match} {start : Nat}
    {name rest : List Char} (search : plan.search? text.toList.toArray = some found)
    (held : found.group? 1 = some ⟨start, start + name.length⟩)
    (stands : ahead text.toList.toArray start = name ++ rest) :
    Language.nameIn? plan text =
      some (String.ofList (if name = [] then Text.trim text.toList else name)) := by
  have extract : (text.toList.toArray.extract start (start + name.length)).toList = name := by
    rw [Array.toList_extract, List.extract_eq_take_drop, Nat.add_sub_cancel_left]
    change (ahead text.toList.toArray start).take name.length = name
    rw [stands, List.take_left]
  simp only [Language.nameIn?, search, Option.map_some, held, extract, List.isEmpty_iff]

theorem nameIn?_commentStart_iff (text name : String) :
    Language.nameIn? commentStartPlan text = some name ↔
      ∃ c rest, Begins comments "#region" text.toList (c :: rest) ∧ Unicode.isBlank c = true ∧
        rest ≠ [] ∧ '\n' ∉ rest ∧ name = String.ofList (withoutClosing rest) := by
  have named : ∀ c rest, Begins comments "#region" text.toList (c :: rest) →
      Unicode.isBlank c = true → rest ≠ [] → '\n' ∉ rest →
      Language.nameIn? commentStartPlan text = some (String.ofList (withoutClosing rest)) := by
    intro c rest begins blank filled oneLine
    have here := begins.ahead text.toList.toArray
    obtain ⟨done, held, found⟩ := exists_seek_commentName (ahead_of_cons here) filled oneLine
      (Progress.toMatch 0)
    obtain ⟨isName, behind, whole, -⟩ := withoutClosing_spec filled
    have search : commentStartPlan.search? text.toList.toArray = some (done.toMatch 0) := by
      refine search?_commentStart_iff.2 ⟨c :: rest, begins, ?_⟩
      rw [seek, seek_oneOf_of_mem here ((Unicode.contains_blanks c).trans blank)]
      exact found
    rw [nameIn?_of_search search held ((ahead_of_cons here).trans whole), if_neg isName]
  constructor
  · intro isName
    obtain ⟨found, search, -⟩ := Option.map_eq_some_iff.1 isName
    obtain ⟨behind, begins, further⟩ := search?_commentStart_iff.1 search
    have here := begins.ahead text.toList.toArray
    rw [seek] at further
    obtain ⟨⟨c, rest, stands, blank⟩, further⟩ := (seek_oneOf_iff _).1 further
    obtain rfl : behind = c :: rest := here.symm.trans stands
    rw [Unicode.contains_blanks] at blank
    have fits : ¬ (rest = [] ∨ '\n' ∈ rest) := by
      intro fails
      exact Option.some_ne_none found (further.symm.trans
        (seek_commentName_eq_none (ahead_of_cons stands) fails))
    obtain ⟨filled, oneLine⟩ := not_or.1 fits
    have same := (named c rest begins blank filled oneLine).symm.trans isName
    exact ⟨c, rest, begins, blank, filled, oneLine, (Option.some.inj same).symm⟩
  · rintro ⟨c, rest, begins, blank, filled, oneLine, rfl⟩
    exact named c rest begins blank filled oneLine

-- The end of a comment is a name where nothing else stands in front of it.
example : Language.nameIn? commentStartPlan "/* #region */" = some "*/" ∧
    Language.nameIn? commentStartPlan "/* #region a*/" = some "a" := by
  decide +kernel

theorem isMark_commentEnd_iff (text : String) :
    Language.isMark commentEndPlan text = true ↔
      ∃ rest, Begins comments "#endregion" text.toList rest := by
  rw [Language.isMark, isFoundIn, Option.isSome_iff_exists]
  constructor
  · rintro ⟨found, search⟩
    obtain ⟨rest, begins, -⟩ := search?_commentEnd_iff.1 search
    exact ⟨rest, begins⟩
  · rintro ⟨rest, begins⟩
    exact ⟨_, search?_commentEnd_iff.2 ⟨rest, begins, rfl⟩⟩

theorem isMark_directiveEnd_iff (text : String) :
    Language.isMark directiveEndPlan text = true ↔
      ∃ rest, Begins directives "endregion" text.toList rest ∧ EndsWord rest := by
  have last : "endregion".toList.getLast? = some 'n' := by decide
  rw [Language.isMark, isFoundIn, Option.isSome_iff_exists]
  constructor
  · rintro ⟨found, search⟩
    obtain ⟨rest, begins, ends⟩ := search?_directiveEnd_iff.1 search
    rw [seek] at ends
    split at ends
    · rename_i holds
      exact ⟨rest, begins, (begins.edge_iff text.toList.toArray last).1 holds⟩
    · cases ends
  · rintro ⟨rest, begins, ends⟩
    refine ⟨Progress.toMatch 0 ⟨text.toList.toArray.size - rest.length, []⟩,
      search?_directiveEnd_iff.2 ⟨rest, begins, ?_⟩⟩
    rw [seek, if_pos ((begins.edge_iff text.toList.toArray last).2 ends)]

theorem nameIn?_directiveStart_iff (text name : String) :
    Language.nameIn? directiveStartPlan text = some name ↔
      ∃ rest, Begins directives "region" text.toList rest ∧ EndsWord rest ∧ '\n' ∉ rest ∧
        name = String.ofList
          (if stripped rest = [] then Text.trim text.toList else stripped rest) := by
  have last : "region".toList.getLast? = some 'n' := by decide
  have named : ∀ rest, Begins directives "region" text.toList rest → EndsWord rest →
      '\n' ∉ rest → Language.nameIn? directiveStartPlan text = some (String.ofList
        (if stripped rest = [] then Text.trim text.toList else stripped rest)) := by
    intro rest begins ends oneLine
    have here := begins.ahead text.toList.toArray
    obtain ⟨start, stands, found⟩ := exists_seek_directiveName (Nat.sub_le ..) here oneLine
      (Progress.toMatch 0)
    have search : directiveStartPlan.search? text.toList.toArray = some (Progress.toMatch 0
        ⟨text.toList.toArray.size, [(1, ⟨start, start + (stripped rest).length⟩)]⟩) := by
      refine search?_directiveStart_iff.2 ⟨rest, begins, ?_⟩
      rw [seek, seek, if_pos ((begins.edge_iff text.toList.toArray last).2 ends)]
      exact found
    have whole : rest.dropWhile isSpace =
        stripped rest ++ (rest.dropWhile isSpace).rtakeWhile isSpace :=
      (List.rdropWhile_append_rtakeWhile ..).symm
    exact nameIn?_of_search search rfl (stands.trans whole)
  constructor
  · intro isName
    obtain ⟨found, search, -⟩ := Option.map_eq_some_iff.1 isName
    obtain ⟨rest, begins, further⟩ := search?_directiveStart_iff.1 search
    have here := begins.ahead text.toList.toArray
    rw [seek, seek] at further
    split at further
    · rename_i holds
      have ends := (begins.edge_iff text.toList.toArray last).1 holds
      have oneLine : '\n' ∉ rest := by
        intro member
        rw [← here] at member
        exact Option.some_ne_none found (further.symm.trans (seek_directiveName_eq_none member))
      have same := (named rest begins ends oneLine).symm.trans isName
      exact ⟨rest, begins, ends, oneLine, (Option.some.inj same).symm⟩
    · cases further
  · rintro ⟨rest, begins, ends, oneLine, rfl⟩
    exact named rest begins ends oneLine

end Marks

section Regions

theorem commentName_ne_empty {text name : String}
    (named : Language.nameIn? commentStartPlan text = some name) : name ≠ "" := by
  obtain ⟨c, rest, -, -, isRest, -, rfl⟩ := (nameIn?_commentStart_iff text name).1 named
  exact mt String.ofList_eq_empty_iff.1 (withoutClosing_spec isRest).1

/-- A directive without a name of its own is its own name, and it has its first character. -/
theorem directiveName_ne_empty {text name : String}
    (named : Language.nameIn? directiveStartPlan text = some name) : name ≠ "" := by
  obtain ⟨rest, ⟨opening, isHash, blanks, -, whole⟩, -, -, rfl⟩ :=
    (nameIn?_directiveStart_iff text name).1 named
  obtain rfl := List.mem_singleton.1 isHash
  split
  · refine mt String.ofList_eq_empty_iff.1 ?_
    rw [whole, Text.trim, List.singleton_append, List.dropWhile_cons_of_neg (by decide)]
    change ('#' :: _).rdropWhile Unicode.isBlank ≠ []
    rw [Ne, List.rdropWhile_eq_nil_iff]
    exact fun all => absurd (all '#' List.mem_cons_self) (by decide)
  · rename_i isName
    exact mt String.ofList_eq_empty_iff.1 isName

theorem start?_named {rules : BraceRules} {cursor : Cursor} {draft : Draft}
    (started : rules.start? cursor = some draft) (named : draft.kind = .named) :
    ∃ text name, draft.name? = some name ∧
      (rules.commentStart? text = some name ∨ rules.directiveStart? text = some name) := by
  unfold BraceRules.start? at started
  split at started
  · exact nomatch started
  · split at started
    · split at started
      · cases started
        exact nomatch named
      · cases started
        exact nomatch named
      · exact nomatch started
    · split at started
      · unfold BraceRules.startComment? at started
        split at started
        · rename_i name isName
          cases started
          exact ⟨_, name, rfl, Or.inl isName⟩
        · split at started
          · exact nomatch started
          · cases started
            exact nomatch named
      · exact nomatch started
    · obtain ⟨name, isName, rfl⟩ := Option.map_eq_some_iff.1 started
      exact ⟨_, name, rfl, Or.inr isName⟩
    · exact nomatch started

end Regions

/-- What the marks say about a language: the comments and directives that open a named region, its
name, those that close one, and that all named regions have names. -/
structure Grammar (rules : BraceRules) : Prop where
  commentStart_iff : ∀ text name, rules.commentStart? text = some name ↔
    ∃ c rest, Begins comments "#region" text.toList (c :: rest) ∧ Unicode.isBlank c = true ∧
      rest ≠ [] ∧ '\n' ∉ rest ∧ name = String.ofList (withoutClosing rest)
  directiveStart_iff : ∀ text name, rules.directiveStart? text = some name ↔
    ∃ rest, Begins directives "region" text.toList rest ∧ EndsWord rest ∧ '\n' ∉ rest ∧
      name = String.ofList (if stripped rest = [] then Text.trim text.toList else stripped rest)
  commentEnd_iff : ∀ text, rules.commentEnd text = true ↔
    ∃ rest, Begins comments "#endregion" text.toList rest
  directiveEnd_iff : ∀ text, rules.directiveEnd text = true ↔
    ∃ rest, Begins directives "endregion" text.toList rest ∧ EndsWord rest
  commentApart : ∀ text, rules.commentStart? text = none ∨ rules.commentEnd text = false
  directiveApart : ∀ text, rules.directiveStart? text = none ∨ rules.directiveEnd text = false
  opened : ∀ cursor draft, rules.start? cursor = some draft → draft.kind = .named →
    ∃ name, draft.name? = some name ∧ name ≠ ""
  listed : ∀ announced document tokens,
    ((Dialect.brace rules).outline announced document tokens).2.AllLabels fun label =>
      label.1 = .named → ∃ name, label.2 = some name ∧ name ≠ ""

/-- The marks that a language has unless it says otherwise can be read, and they are these. -/
theorem rules_grammar (language : Language) :
    ∃ rules, { language with markers := {} }.rules = .ok rules ∧ Grammar rules := by
  have opened : ∀ cursor draft, (standardRules language).start? cursor = some draft →
      draft.kind = .named → ∃ name, draft.name? = some name ∧ name ≠ "" := by
    intro cursor draft started isNamed
    obtain ⟨text, name, held, comment | directive⟩ := start?_named started isNamed
    · exact ⟨name, held, commentName_ne_empty comment⟩
    · exact ⟨name, held, directiveName_ne_empty directive⟩
  refine ⟨standardRules language, rules_eq language, nameIn?_commentStart_iff,
    nameIn?_directiveStart_iff, isMark_commentEnd_iff, isMark_directiveEnd_iff, ?_, ?_, opened, ?_⟩
  · intro text
    refine or_iff_not_imp_left.2 fun found => Bool.eq_false_iff.2 fun closes => ?_
    obtain ⟨name, isName⟩ := Option.ne_none_iff_exists'.1 found
    obtain ⟨c, rest, start, -⟩ := (nameIn?_commentStart_iff text name).1 isName
    obtain ⟨further, stop⟩ := (isMark_commentEnd_iff text).1 closes
    exact comment_apart start stop
  · intro text
    refine or_iff_not_imp_left.2 fun found => Bool.eq_false_iff.2 fun closes => ?_
    obtain ⟨name, isName⟩ := Option.ne_none_iff_exists'.1 found
    obtain ⟨rest, start, -⟩ := (nameIn?_directiveStart_iff text name).1 isName
    obtain ⟨further, stop, -⟩ := (isMark_directiveEnd_iff text).1 closes
    exact directive_apart start stop
  · intro announced document tokens
    exact Dialect.outline_allLabels (standardRules language) announced document tokens _
      (fun none => nomatch none) opened

end Marker

end CodeFolding
