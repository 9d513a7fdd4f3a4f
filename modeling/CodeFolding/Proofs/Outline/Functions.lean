import CodeFolding.Proofs.Outline.Matching

set_option autoImplicit false

namespace CodeFolding

namespace Cursor

variable {document : Document} {tokens : List Token} {cursor next stop : Cursor}
  (suffix : cursor.stops <:+ (ofTokens document tokens).stops)
  (moved : cursor.advance? = some next)

include suffix moved

theorem mem_stops_of_suffix : cursor ∈ (ofTokens document tokens).stops := by
  apply suffix.mem
  rw [stops_of_advance moved]
  exact List.mem_cons_self

theorem sound_of_suffix : cursor.Sound tokens :=
  ((ofTokens_sound document tokens).of_mem_stops cursor (mem_stops_of_suffix suffix moved)).1

/-- A cursor on its way has passed a stop, is at it, or will come to it. -/
theorem stop_cases (ordered : Token.Ordered tokens)
    (member : stop ∈ (ofTokens document tokens).stops) :
    stop.position < cursor.position ∨ stop = cursor ∨ next.position ≤ stop.position := by
  have sound := (sound_of_suffix suffix moved).advance moved
  have increasing := (ofTokens_sound document tokens).stops_increasing ordered
  obtain ⟨passed, all⟩ := suffix
  rw [stops_of_advance moved] at all
  rw [← all] at member increasing
  rcases List.mem_append.1 member with before | further
  · rw [List.map_append] at increasing
    have apart := (List.pairwise_append.1 increasing).2.2
    exact Or.inl (apart _ (List.mem_map_of_mem before) _ (List.mem_map_of_mem List.mem_cons_self))
  · rcases List.mem_cons.1 further with here | later
    · exact Or.inr (Or.inl here)
    · exact Or.inr (Or.inr (sound.position_le_of_mem_stops ordered stop later))

end Cursor

namespace BraceRules

variable {rules : BraceRules} {document : Document} {tokens : List Token} {cursor next : Cursor}

theorem announcesFunction_iff : rules.announcesFunction cursor = true ↔
    ∃ token, cursor.token? = some token ∧ token.kind = .keyword ∧
      token.start = cursor.position ∧
      rules.isFunctionKeyword (cursor.document.slice token.toSpan) = true := by
  unfold announcesFunction
  cases cursor.token? with
  | none => simp only [Bool.false_eq_true, reduceCtorEq, false_and, exists_false]
  | some token =>
    simp only [Bool.and_eq_true, beq_iff_eq, Option.some.injEq, exists_eq_left', and_assoc]

theorem quiet_of_announces (announces : rules.announcesFunction cursor = true) :
    rules.start? cursor = none ∧ ∀ kind, rules.close? kind cursor = none := by
  obtain ⟨⟨span, kind⟩, current, keyword, -⟩ := announcesFunction_iff.1 announces
  cases keyword
  unfold start? close?
  rw [current]
  refine ⟨rfl, fun kind => ?_⟩
  cases kind <;> rfl

/-- A region of any kind is opened or closed at a place. Closing marks that fit no region do not
count. -/
def Divides (rules : BraceRules) (document : Document) (tokens : List Token) (place : Nat) : Prop :=
  (∃ mark ∈ Delimiter.matched [] (rules.delimiters document tokens), mark.position = place) ∨
    ∃ stop ∈ (Cursor.ofTokens document tokens).stops,
      stop.position = place ∧ rules.remarks stop = true

/-- A function keyword begins in front of a place, and no region is opened or closed between the
two. -/
def Announced (rules : BraceRules) (document : Document) (tokens : List Token) (place : Nat) :
    Prop :=
  ∃ stop ∈ (Cursor.ofTokens document tokens).stops,
    (∃ token, stop.token? = some token ∧ token.kind = .keyword ∧ token.start = stop.position ∧
      rules.isFunctionKeyword (document.slice token.toSpan) = true) ∧
    stop.position < place ∧
    ∀ between, stop.position < between → between < place →
      ¬ rules.Divides document tokens between

theorem announced_iff {place : Nat} : rules.Announced document tokens place ↔
    ∃ stop ∈ (Cursor.ofTokens document tokens).stops,
      rules.announcesFunction stop = true ∧ stop.position < place ∧
      ∀ between, stop.position < between → between < place →
        ¬ rules.Divides document tokens between := by
  refine exists_congr fun stop => and_congr_right fun member => and_congr_left fun _ => ?_
  have same := ((Cursor.ofTokens_sound document tokens).of_mem_stops stop member).2
  rw [announcesFunction_iff, same, Cursor.ofTokens_document]

theorem exists_stop_of_divides {place : Nat} (divides : rules.Divides document tokens place) :
    ∃ stop ∈ (Cursor.ofTokens document tokens).stops, stop.position = place := by
  rcases divides with ⟨mark, member, here⟩ | ⟨stop, member, here, -⟩
  · have marked := (Delimiter.matched_sublist [] (rules.delimiters document tokens)).mem member
    have listed := (rules.position_sublist 1 (Cursor.ofTokens document tokens).stops).mem
      (List.mem_map_of_mem marked)
    rw [here] at listed
    exact List.mem_map.1 listed
  · exact ⟨stop, member, here⟩

section Next

variable (ordered : Token.Ordered tokens)
  (suffix : cursor.stops <:+ (Cursor.ofTokens document tokens).stops)
  (moved : cursor.advance? = some next)

include ordered suffix moved

theorem not_divides_between {place : Nat} (behind : cursor.position < place)
    (before : place < next.position) : ¬ rules.Divides document tokens place := by
  intro divides
  obtain ⟨stop, member, here⟩ := exists_stop_of_divides divides
  rcases Cursor.stop_cases suffix moved ordered member with passed | rfl | later
  · omega
  · omega
  · omega

/-- An announcement goes on over a position where nothing is opened or closed. -/
theorem announced_next_iff (undivided : ¬ rules.Divides document tokens cursor.position) :
    rules.Announced document tokens next.position ↔
      rules.Announced document tokens cursor.position ∨
        rules.announcesFunction cursor = true := by
  have forward := (Cursor.sound_of_suffix suffix moved).position_lt_of_advance? ordered moved
  have current := Cursor.mem_stops_of_suffix suffix moved
  rw [announced_iff, announced_iff]
  constructor
  · rintro ⟨stop, member, announces, before, clear⟩
    rcases Cursor.stop_cases suffix moved ordered member with passed | rfl | later
    · exact Or.inl ⟨stop, member, announces, passed,
        fun between behind below => clear between behind (Nat.lt_trans below forward)⟩
    · exact Or.inr announces
    · omega
  · rintro (⟨stop, member, announces, before, clear⟩ | announces)
    · refine ⟨stop, member, announces, Nat.lt_trans before forward, ?_⟩
      intro between behind below
      rcases Nat.lt_trichotomy between cursor.position with earlier | rfl | later
      · exact clear between behind earlier
      · exact undivided
      · exact not_divides_between ordered suffix moved later below
    · exact ⟨cursor, current, announces, forward,
        fun between behind below => not_divides_between ordered suffix moved behind below⟩

theorem not_announced_next (divides : rules.Divides document tokens cursor.position)
    (silent : rules.announcesFunction cursor ≠ true) :
    ¬ rules.Announced document tokens next.position := by
  rw [announced_iff]
  rintro ⟨stop, member, announces, before, clear⟩
  rcases Cursor.stop_cases suffix moved ordered member with passed | rfl | later
  · exact clear cursor.position passed
      ((Cursor.sound_of_suffix suffix moved).position_lt_of_advance? ordered moved) divides
  · exact silent announces
  · omega

end Next

theorem start?_role {draft : Draft} (starts : rules.start? cursor = some draft) :
    draft.role = .plain := by
  unfold start? at starts
  split at starts
  · exact nomatch starts
  · split at starts
    · split at starts
      · cases starts
        rfl
      · cases starts
        rfl
      · exact nomatch starts
    · unfold startComment? at starts
      split at starts
      · split at starts
        · cases starts
          rfl
        · split at starts
          · exact nomatch starts
          · cases starts
            rfl
      · exact nomatch starts
    · obtain ⟨name, -, rfl⟩ := Option.map_eq_some_iff.1 starts
      rfl
    · exact nomatch starts

theorem roleOf_eq_function_iff {draft : Draft} (starts : rules.start? cursor = some draft)
    (announced : Bool) :
    roleOf announced draft = .function ↔ draft.kind = .block ∧ announced = true := by
  have plain := start?_role starts
  unfold roleOf
  split
  · rename_i both
    rw [Bool.and_eq_true, decide_eq_true_eq] at both
    exact ⟨fun _ => both, fun _ => rfl⟩
  · rename_i notBoth
    rw [Bool.and_eq_true, decide_eq_true_eq] at notBoth
    rw [plain]
    exact ⟨fun absent => (nomatch absent), fun both => absurd both notBoth⟩

end BraceRules

namespace Scan

variable {rules : BraceRules} {tokens : List Token} {document : Document}
  {scan after : Scan Bool} {next : Cursor}

/-- What a scan knows of functions: its state tells whether one is announced at the position, and
each region has got its role by what was announced where it opened. The marks in front of the
position are those that the scan has come by. -/
structure Attends (rules : BraceRules) (tokens : List Token) (document : Document)
    (scan : Scan Bool) : Prop where
  suffix : scan.cursor.stops <:+ (Cursor.ofTokens document tokens).stops
  passed : ∃ marks, Delimiter.matched [] (rules.delimiters document tokens) = marks ++
      Delimiter.matched scan.openKinds
        (rules.delimitersFrom scan.outline.size scan.cursor.stops) ∧
    ∀ mark ∈ marks, mark.position < scan.cursor.position
  state_iff : scan.state = true ↔ rules.Announced document tokens scan.cursor.position
  role_iff : ∀ id, (scan.outline.region id).role = .function ↔ id < scan.outline.size ∧
    ∃ draft, (rules.openings document tokens)[id]? = some draft ∧ draft.kind = .block ∧
      rules.Announced document tokens draft.start

namespace Attends

theorem start (rules : BraceRules) (announced : Bool) (document : Document)
    (tokens : List Token) :
    Attends rules tokens document (Scan.start (Dialect.brace rules) announced document tokens) := by
  refine ⟨List.suffix_refl _, ⟨[], rfl, fun mark member => absurd member List.not_mem_nil⟩, ?_, ?_⟩
  · have first : (Cursor.ofTokens document tokens).position = 0 := Cursor.settle_position ..
    constructor
    · intro absent
      exact nomatch absent
    · rintro ⟨stop, -, -, before, -⟩
      change stop.position < (Cursor.ofTokens document tokens).position at before
      omega
  · intro id
    have plain : ((Outline.blank document).region id).role = .plain := by
      cases id with
      | zero => rfl
      | succ id => rfl
    constructor
    · intro function
      exact nomatch plain.symm.trans function
    · rintro ⟨known, draft, opening, block, -⟩
      cases Nat.lt_one_iff.1 known
      cases opening
      exact nomatch block

/-- Where nothing is opened or closed, no mark stands. -/
theorem not_divides (ordered : Token.Ordered tokens)
    (attends : Attends rules tokens document scan)
    (reached : Reached rules tokens document scan) (moved : scan.cursor.advance? = some next)
    (unstarted : rules.start? scan.cursor = none)
    (unclosed : ∀ id outer, scan.opened = id :: outer →
      rules.close? (scan.outline.region id).kind scan.cursor = none) :
    ¬ rules.Divides document tokens scan.cursor.position := by
  have forward := reached.sound.position_lt_of_advance? ordered moved
  rintro (⟨mark, member, here⟩ | ⟨stop, member, here, remarks⟩)
  · obtain ⟨marks, all, before⟩ := attends.passed
    rw [Cursor.stops_of_advance moved, reached.matched_pass unstarted unclosed] at all
    rw [all] at member
    rcases List.mem_append.1 member with early | late
    · have passed := before mark early
      omega
    · have marked := (Delimiter.matched_sublist _ _).mem late
      have listed := (rules.position_sublist _ next.stops).mem (List.mem_map_of_mem marked)
      obtain ⟨stop, ahead, same⟩ := List.mem_map.1 listed
      have behind :=
        (reached.sound.advance moved).position_le_of_mem_stops ordered stop ahead
      omega
  · rcases Cursor.stop_cases attends.suffix moved ordered member with passed | rfl | later
    · omega
    · rcases rules.start?_cases reached.sound with
        ⟨draft, starts, -⟩ | ⟨draft, starts, -⟩ | ⟨-, -, silent⟩
      · exact nomatch unstarted.symm.trans starts
      · exact nomatch unstarted.symm.trans starts
      · exact nomatch silent.symm.trans remarks
    · omega

/-- No announcement outlasts a position where a region starts, be it a comment. -/
theorem not_announced_of_starts (ordered : Token.Ordered tokens)
    (attends : Attends rules tokens document scan)
    (reached : Reached rules tokens document scan) (moved : scan.cursor.advance? = some next)
    {draft : Draft} (starts : rules.start? scan.cursor = some draft) :
    ¬ rules.Announced document tokens next.position := by
  have divides : rules.Divides document tokens scan.cursor.position := by
    rcases rules.start?_cases reached.sound with
      ⟨found, same, unended, -⟩ | ⟨found, same, -, -, -, remarks⟩ | ⟨none, -⟩
    · obtain ⟨marks, all, -⟩ := attends.passed
      rw [Cursor.stops_of_advance moved,
        @Reached.matched_start _ _ _ _ next reached found .plain same unended] at all
      refine Or.inl ⟨.opener scan.outline.size found.kind found.start, ?_,
        (BraceRules.start?_begins reached.sound same).start_eq⟩
      rw [all]
      exact List.mem_append_right _ List.mem_cons_self
    · refine Or.inr ⟨scan.cursor, attends.suffix.mem ?_, rfl, remarks⟩
      rw [Cursor.stops_of_advance moved]
      exact List.mem_cons_self
    · exact nomatch none.symm.trans starts
  refine BraceRules.not_announced_next ordered attends.suffix moved divides fun announces => ?_
  exact nomatch (BraceRules.quiet_of_announces announces).1.symm.trans starts

theorem not_announced_of_closes (ordered : Token.Ordered tokens)
    (attends : Attends rules tokens document scan)
    (reached : Reached rules tokens document scan) (moved : scan.cursor.advance? = some next)
    {id stop : Nat} {outer : List Nat} (innermost : scan.opened = id :: outer)
    (unstarted : rules.start? scan.cursor = none)
    (closes : rules.close? (scan.outline.region id).kind scan.cursor = some stop) :
    ¬ rules.Announced document tokens next.position := by
  have divides : rules.Divides document tokens scan.cursor.position := by
    obtain ⟨marks, all, -⟩ := attends.passed
    rw [Cursor.stops_of_advance moved,
      @Reached.matched_close _ _ _ _ next reached _ _ _ innermost unstarted closes] at all
    refine Or.inl ⟨.closer (scan.outline.region id).kind scan.cursor.position stop, ?_, rfl⟩
    rw [all]
    exact List.mem_append_right _ List.mem_cons_self
  refine BraceRules.not_announced_next ordered attends.suffix moved divides fun announces => ?_
  exact nomatch ((BraceRules.quiet_of_announces announces).2 _).symm.trans closes

theorem role_add (attends : Attends rules tokens document scan)
    (reached : Reached rules tokens document scan) (moved : scan.cursor.advance? = some next)
    {draft : Draft} (starts : rules.start? scan.cursor = some draft) (id : Nat) :
    ((scan.outline.add { draft with role := BraceRules.roleOf (scan.heard rules) draft }
        scan.parent).region id).role = .function ↔ id < scan.outline.size + 1 ∧
      ∃ found, (rules.openings document tokens)[id]? = some found ∧ found.kind = .block ∧
        rules.Announced document tokens found.start := by
  by_cases new : id = scan.outline.size
  · subst new
    obtain ⟨opening, -⟩ := reached.ahead_of_starts moved starts
    have here := (BraceRules.start?_begins reached.sound starts).start_eq
    have heard : scan.heard rules = true ↔ rules.Announced document tokens draft.start := by
      rw [here, ← attends.state_iff, heard, Bool.or_eq_true]
      refine ⟨fun either => either.resolve_right fun announces => ?_, Or.inl⟩
      exact nomatch (BraceRules.quiet_of_announces announces).1.symm.trans starts
    rw [scan.outline.region_add_self, opening]
    dsimp only
    rw [BraceRules.roleOf_eq_function_iff starts, heard]
    constructor
    · intro facts
      exact ⟨Nat.lt_succ_self _, draft, rfl, facts⟩
    · rintro ⟨-, found, same, facts⟩
      cases same
      exact facts
  · have known : id < scan.outline.size + 1 ↔ id < scan.outline.size := by omega
    rw [scan.outline.region_add_other _ _ new, known]
    exact attends.role_iff id

theorem step (ordered : Token.Ordered tokens) (attends : Attends rules tokens document scan)
    (reached : Reached rules tokens document scan) (moved : scan.cursor.advance? = some next)
    (heeds : Heeds rules scan next after) : Attends rules tokens document after := by
  have forward := reached.sound.position_lt_of_advance? ordered moved
  have suffix : next.stops <:+ (Cursor.ofTokens document tokens).stops := by
    refine List.IsSuffix.trans ?_ attends.suffix
    rw [Cursor.stops_of_advance moved]
    exact List.suffix_cons _ _
  obtain ⟨marks, all, before⟩ := attends.passed
  have earlier : ∀ mark ∈ marks, mark.position < next.position :=
    fun mark member => Nat.lt_trans (before mark member) forward
  have andThis : ∀ last : Delimiter, last.position = scan.cursor.position →
      ∀ mark ∈ marks ++ [last], mark.position < next.position := by
    intro last here mark member
    rcases List.mem_append.1 member with old | new
    · exact earlier mark old
    · rw [List.mem_singleton.1 new, here]
      exact forward
  rw [Cursor.stops_of_advance moved] at all
  cases heeds with
  | pass unstarted unclosed =>
    have undivided := attends.not_divides ordered reached moved unstarted unclosed
    rw [reached.matched_pass unstarted unclosed] at all
    refine ⟨suffix, ⟨marks, all, earlier⟩, ?_, attends.role_iff⟩
    rw [BraceRules.announced_next_iff ordered attends.suffix moved undivided,
      ← attends.state_iff, heard, Bool.or_eq_true]
  | start draft starts unended =>
    have here := (BraceRules.start?_begins reached.sound starts).start_eq
    rw [reached.matched_start _ starts unended] at all
    refine ⟨suffix, ⟨marks ++ [.opener scan.outline.size draft.kind draft.start], ?_,
      andThis (.opener scan.outline.size draft.kind draft.start) here⟩, ?_, ?_⟩
    · rw [all, Outline.size_add, List.append_assoc, List.singleton_append]
    · exact iff_of_false Bool.false_ne_true
        (attends.not_announced_of_starts ordered reached moved starts)
    · rw [Outline.size_add]
      exact attends.role_add reached moved starts
  | comment draft starts ended =>
    have finishes := reached.finishes_comment moved starts
      (BraceRules.roleOf (scan.heard rules) draft)
    rw [reached.matched_comment moved _ starts ended] at all
    refine ⟨suffix, ⟨marks, ?_, earlier⟩, ?_, ?_⟩
    · rw [all, Outline.size_finish, Outline.size_add]
    · exact iff_of_false Bool.false_ne_true
        (attends.not_announced_of_starts ordered reached moved starts)
    · intro id
      rw [finishes.role_eq, Outline.size_finish, Outline.size_add]
      exact attends.role_add reached moved starts id
  | close id outer stop innermost unstarted closes =>
    have finishes := reached.finishes_close innermost stop
    rw [reached.matched_close innermost unstarted closes] at all
    refine ⟨suffix, ⟨marks ++ [.closer (scan.outline.region id).kind scan.cursor.position stop],
      ?_, andThis _ rfl⟩, ?_, ?_⟩
    · rw [all, Outline.size_finish, Outline.size_close, List.append_assoc, List.singleton_append]
    · exact iff_of_false Bool.false_ne_true
        (attends.not_announced_of_closes ordered reached moved innermost unstarted closes)
    · intro other
      rw [finishes.role_eq, Outline.role_close, Outline.size_finish, Outline.size_close]
      exact attends.role_iff other

end Attends

theorem run_attends (rules : BraceRules) (announced : Bool) (document : Document)
    {tokens : List Token} (ordered : Token.Ordered tokens) :
    Attends rules tokens document (braceRun rules announced document tokens) := by
  have kept := run_induction (Dialect.brace rules)
    (fun scan => Reached rules tokens document scan ∧ Attends rules tokens document scan) ?_ _
    ⟨Reached.start rules announced document tokens, Attends.start rules announced document tokens⟩
  · exact kept.2
  · rintro scan next ⟨reached, attends⟩ moved
    exact ⟨reached.step moved, attends.step ordered reached moved (step_heeds rules scan next)⟩

end Scan

/-- For every text, all tokens with bounds in order and every state that an earlier scan has left
behind, a region is the body of a function exactly if it is a block that opens behind a function
keyword with no region opened or closed in between. -/
theorem Dialect.outline_role_function_iff (rules : BraceRules) (announced : Bool)
    (document : Document) {tokens : List Token} (ordered : Token.Ordered tokens) (id : Nat) :
    (((brace rules).outline announced document tokens).2.region id).role = .function ↔
      (((brace rules).outline announced document tokens).2.region id).kind = .block ∧
      ∃ place, .opener id .block place ∈
          Delimiter.matched [] (rules.delimiters document tokens) ∧
        rules.Announced document tokens place := by
  obtain ⟨reached, delimited⟩ := Scan.run_delimited rules announced document tokens
  have attends := Scan.run_attends rules announced document ordered
  rw [outline_brace]
  generalize Scan.braceRun rules announced document tokens = scan at reached delimited attends ⊢
  have opened : ∀ kind place, .opener id kind place ∈
      Delimiter.matched [] (rules.delimiters document tokens) →
      id < scan.outline.size ∧ (scan.outline.region id).kind = kind ∧
        ∃ draft, (rules.openings document tokens)[id]? = some draft ∧ draft.start = place := by
    intro kind place member
    obtain ⟨before, behind, split⟩ := List.append_of_mem member
    have opens := delimited.opens before id kind place behind split
    exact ⟨opens.known, opens.kind_eq, opens.opening⟩
  rw [reached.draft_finishAll, attends.role_iff]
  constructor
  · rintro ⟨known, draft, opening, block, announces⟩
    have kind := (reached.recalls.kind id draft known opening).trans block
    have inner : Outline.rootId < id := by
      apply Nat.pos_of_ne_zero
      rintro rfl
      exact nomatch reached.recalls.root.symm.trans kind
    obtain ⟨sort, place, member⟩ := delimited.covers id inner known (by rw [kind]; decide)
    obtain ⟨-, same, found, again, here⟩ := opened sort place member
    cases same.symm.trans kind
    cases Option.some.inj (opening.symm.trans again)
    exact ⟨kind, place, member, here ▸ announces⟩
  · rintro ⟨-, place, member, announces⟩
    obtain ⟨known, kind, draft, opening, here⟩ := opened .block place member
    exact ⟨known, draft, opening, (reached.recalls.kind id draft known opening).symm.trans kind,
      here ▸ announces⟩

/-- The rules of a language whose functions begin with the keyword `f`. -/
def functionRules : BraceRules :=
  { BraceRules.unmarked with isFunctionKeyword := fun text => text == "f" }

def functionText : Document :=
  Document.ofString "f\x7b\x7d\x7b"

/-- A function keyword, and the brackets behind it in one token. -/
def functionTokens : List Token :=
  [⟨⟨0, 1⟩, .keyword⟩, ⟨⟨1, 4⟩, .punctuation⟩]

theorem outline_functionTokens :
    ((Dialect.brace functionRules).outline false functionText functionTokens).2.regions =
      #[{ Region.root with children := #[1, 2] },
        { start := 1, stop? := some 3, kind := .block, role := .function, parent? := some 0 },
        { start := 3, kind := .block, parent? := some 0 }] := by
  rw [Dialect.outline_of_sorted _ _ _ (by decide)]
  decide +kernel

/-- The first block there is the body of a function, and the second is not. -/
theorem Dialect.outline_role_functionTokens :
    Token.Ordered functionTokens ∧
    (∃ place, .opener 1 .block place ∈
        Delimiter.matched [] (functionRules.delimiters functionText functionTokens) ∧
      functionRules.Announced functionText functionTokens place) ∧
    ¬ ∃ place, .opener 2 .block place ∈
        Delimiter.matched [] (functionRules.delimiters functionText functionTokens) ∧
      functionRules.Announced functionText functionTokens place := by
  have ordered : Token.Ordered functionTokens := by decide
  have regions := outline_functionTokens
  have role := outline_role_function_iff functionRules false functionText ordered
  generalize ((brace functionRules).outline false functionText functionTokens).2 = outline
    at regions role
  refine ⟨ordered, ((role 1).1 ?_).2, fun announced => ?_⟩
  · rw [Outline.region, regions]
    rfl
  · have body := (role 2).2 ⟨by rw [Outline.region, regions]; rfl, announced⟩
    rw [Outline.region, regions] at body
    exact absurd body (by decide)

def returningText : Document :=
  Document.ofString "f\x7b"

/-- A function keyword, a comment that ends in front of its start, and a bracket behind both. -/
def returningTokens : List Token :=
  [⟨⟨0, 1⟩, .keyword⟩, ⟨⟨1, 0⟩, .comment⟩, ⟨⟨1, 2⟩, .punctuation⟩]

theorem outline_returningTokens :
    ((Dialect.brace functionRules).outline false returningText returningTokens).2.regions =
      #[{ Region.root with children := #[1, 2] },
        { start := 1, stop? := some 0, kind := .comment, parent? := some 0 },
        { start := 1, kind := .block, parent? := some 0 }] := by
  rw [Dialect.outline_of_sorted _ _ _ (by decide)]
  decide +kernel

theorem delimiters_returningTokens :
    functionRules.delimiters returningText returningTokens = [.opener 2 .block 1] := by
  rw [BraceRules.delimiters, Cursor.ofTokens_of_sorted _ (by decide)]
  decide +kernel

theorem announced_returningTokens :
    functionRules.Announced returningText returningTokens 1 := by
  have first : functionRules.announcesFunction (Cursor.ofTokens returningText returningTokens) =
        true ∧
      (Cursor.ofTokens returningText returningTokens).position = 0 ∧
      (Cursor.ofTokens returningText returningTokens).advance?.isSome = true := by
    rw [Cursor.ofTokens_of_sorted _ (by decide)]
    decide +kernel
  obtain ⟨announces, start, moves⟩ := first
  obtain ⟨next, moved⟩ := Option.isSome_iff_exists.1 moves
  refine BraceRules.announced_iff.2 ⟨_, ?_, announces, ?_, ?_⟩
  · rw [Cursor.stops_of_advance moved]
    exact List.mem_cons_self
  · rw [start]
    exact Nat.one_pos
  · intro between behind before
    omega

/-- The block there is no body of a function. The cursor leaves the comment to the front and comes
to the bracket only then, but nothing is opened or closed between the keyword and the bracket. -/
theorem Dialect.outline_role_returningTokens :
    (((brace functionRules).outline false returningText returningTokens).2.region 2).role =
      .plain ∧
    functionRules.Announced returningText returningTokens 1 ∧
    ¬ ∀ (rules : BraceRules) (announced : Bool) (document : Document) (tokens : List Token)
        (id : Nat),
      (((brace rules).outline announced document tokens).2.region id).role = .function ↔
        (((brace rules).outline announced document tokens).2.region id).kind = .block ∧
        ∃ place, .opener id .block place ∈
            Delimiter.matched [] (rules.delimiters document tokens) ∧
          rules.Announced document tokens place := by
  have plain : (((brace functionRules).outline false returningText returningTokens).2.region
      2).role = .plain := by
    rw [Outline.region, outline_returningTokens]
    rfl
  refine ⟨plain, announced_returningTokens, fun role => ?_⟩
  have body := (role functionRules false returningText returningTokens 2).2
    ⟨by rw [Outline.region, outline_returningTokens]; rfl, 1,
      by rw [delimiters_returningTokens]; exact List.mem_cons_self, announced_returningTokens⟩
  rw [plain] at body
  exact absurd body (by decide)

end CodeFolding
