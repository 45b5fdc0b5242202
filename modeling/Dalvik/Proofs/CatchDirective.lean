import Dalvik.Proofs.Blocks
import Dalvik.Proofs.Matching

/-!
# The directive that names a handler

The directive is found by a pattern that is put together from the mark of the block. For a mark of
letters and digits the pattern means what it says, and it is found in exactly the lines that are
written as the directive of this block.
-/

namespace Dalvik.Pattern

/-! ### Reading plain text -/

/-- Characters that mean something else than themselves in patterns. -/
def specials : List Char :=
  ['|', ')', '\\', '[', '.', '^', '$', '(', '?', '*', '+', '\x7b']

def plainItem (c : Char) : Item :=
  .ofMembers {} [.only c]

theorem readItems_plain {c : Char} (hplain : c ∉ specials) (fuel position : Nat)
    (items : List Item) (rest : List Char) :
    readItems (fuel + 1) {} items { rest := c :: rest, position := position } =
      readItems fuel {} (plainItem c :: items) { rest := rest, position := position + 1 } := by
  simp only [specials, List.mem_cons, not_or, List.not_mem_nil] at hplain
  simp [readItems, hplain, plainItem, Reading.advance]

theorem readItems_plainText {text : List Char} (hplain : ∀ c ∈ text, c ∉ specials)
    (fuel position : Nat) (items : List Item) (rest : List Char) :
    readItems (fuel + text.length) {} items { rest := text ++ rest, position := position } =
      readItems fuel {} (text.reverse.map plainItem ++ items)
        { rest := rest, position := position + text.length } := by
  induction text generalizing items position with
  | nil => rfl
  | cons c text ih =>
      have hothers : ∀ d ∈ text, d ∉ specials := fun d hd => hplain d (List.mem_cons_of_mem c hd)
      have hposition : position + 1 + text.length = position + (c :: text).length := by
        rw [List.length_cons]
        omega
      rw [List.length_cons, ← Nat.add_assoc, List.cons_append,
        readItems_plain (hplain c List.mem_cons_self), ih hothers, hposition, List.reverse_cons,
        List.map_append, List.append_assoc]
      rfl

/-! ### Reading the directive -/

def letter (c : Char) : Pattern :=
  .one (.either (.only c) .nothing)

/-- The first part of the written pattern, up to the mark. -/
def opening : List Char :=
  "^\\.catch [^\\s]+ \\\x7b:try_start_".toList

def middle : List Char :=
  "[ \\.]+:try_end_".toList

def ending : List Char :=
  "\\\x7d\\s*(\\:.+)".toList

theorem readItems_opening (fuel : Nat) (rest : List Char) :
    ∃ items, readItems (fuel + 23) {} [] { rest := opening ++ rest } =
        readItems fuel {} items { rest := rest, position := 29 } ∧
      items.map (·.pattern) = (":try_start_".toList.reverse.map letter ++
        [letter '\x7b', letter ' ',
          .repeated (.one (.outside (.either .blank .nothing))) 1 none false] ++
        ".catch ".toList.reverse.map letter ++ [.atStart]) :=
  ⟨_, rfl, rfl⟩

theorem readItems_middle (fuel position : Nat) (items : List Item) (rest : List Char) :
    ∃ read, readItems (fuel + 11) {} items { rest := middle ++ rest, position := position } =
        readItems fuel {} read { rest := rest, position := position + 15 } ∧
      read.map (·.pattern) = ":try_end_".toList.reverse.map letter ++
        [.repeated (.one (.either (.only ' ') (.either (.only '.') .nothing))) 1 none false] ++
        items.map (·.pattern) :=
  ⟨_, rfl, rfl⟩

theorem readItems_ending (fuel position : Nat) (items : List Item) :
    ∃ read last, readItems (fuel + 11) {} items { rest := ending, position := position } =
        .ok (read, last) ∧
      read.map (·.pattern) =
        [.group 1 (.both (letter ':') (.both (.repeated (.one .inLine) 1 none false) .empty)),
          .repeated (.one (.either .blank .nothing)) 0 none false, letter '\x7d'] ++
        items.map (·.pattern) ∧
      last.rest = [] ∧ last.mentioned = [] ∧ last.refused = [] :=
  ⟨_, _, rfl, rfl, rfl, rfl, rfl⟩

/-- The pattern of the name of a handler. -/
def handlerPart : Pattern :=
  .both (.group 1 (.both (letter ':') (.both (.repeated (.one .inLine) 1 none false) .empty))) .empty

def endPart (mark : List Char) : Pattern :=
  spelled (":try_end_".toList ++ mark ++ ['\x7d'])
    (.both (.repeated (.one (.either .blank .nothing)) 0 none false) handlerPart)

def startPart (mark : List Char) : Pattern :=
  spelled (" \x7b:try_start_".toList ++ mark)
    (.both (.repeated (.one (.either (.only ' ') (.either (.only '.') .nothing))) 1 none false)
      (endPart mark))

/-- The pattern that a directive is found by. -/
def catchPattern (mark : List Char) : Pattern :=
  .both .atStart (spelled ".catch ".toList
    (.both (.repeated (.one (.outside (.either .blank .nothing))) 1 none false) (startPart mark)))

/-- Patterns one after the other, given with the last one first. -/
def joinPatterns (patterns : List Pattern) (last : Pattern) : Pattern :=
  patterns.foldl (fun rest pattern => .both pattern rest) last

theorem joinItems_fst (items : List Item) :
    (joinItems items).1 = joinPatterns (items.map (·.pattern)) .empty := by
  suffices hfold : ∀ rest width, (items.foldl (fun (rest, width) item =>
      (Pattern.both item.pattern rest, item.width.both width)) (rest, width)).1 =
      joinPatterns (items.map (·.pattern)) rest from hfold .empty .zero
  induction items with
  | nil => exact fun _ _ => rfl
  | cons item items ih => exact fun rest width => ih (.both item.pattern rest) (item.width.both width)

theorem joinPatterns_append (first second : List Pattern) (last : Pattern) :
    joinPatterns (first ++ second) last = joinPatterns second (joinPatterns first last) :=
  List.foldl_append

theorem spelled_append (first second : List Char) (last : Pattern) :
    spelled (first ++ second) last = spelled first (spelled second last) :=
  List.foldr_append

theorem joinPatterns_letters (text : List Char) (last : Pattern) :
    joinPatterns (text.reverse.map letter) last = spelled text last := by
  induction text with
  | nil => rfl
  | cons c text ih =>
      rw [List.reverse_cons, List.map_append, joinPatterns_append, ih]
      rfl

theorem toList_catchDirective (mark : String) : (Listing.catchDirective mark).toList =
    opening ++ (mark.toList ++ (middle ++ (mark.toList ++ ending))) := by
  unfold Listing.catchDirective opening middle ending
  rw [String.toList_append, String.toList_append, String.toList_append, String.toList_append,
    List.append_assoc, List.append_assoc, List.append_assoc]

/-- The items of the directive, the last one first. -/
def catchItems (mark : List Char) : List Pattern :=
  [.group 1 (.both (letter ':') (.both (.repeated (.one .inLine) 1 none false) .empty)),
    .repeated (.one (.either .blank .nothing)) 0 none false, letter '\x7d'] ++
  (mark.reverse.map letter ++ (":try_end_".toList.reverse.map letter ++
  [.repeated (.one (.either (.only ' ') (.either (.only '.') .nothing))) 1 none false] ++
  (mark.reverse.map letter ++ (":try_start_".toList.reverse.map letter ++
  [letter '\x7b', letter ' ', .repeated (.one (.outside (.either .blank .nothing))) 1 none false] ++
  ".catch ".toList.reverse.map letter ++ [.atStart]))))

theorem joinPatterns_catchItems (mark : List Char) :
    joinPatterns (catchItems mark) .empty = catchPattern mark := by
  simp only [catchItems, catchPattern, startPart, endPart, joinPatterns_append,
    joinPatterns_letters, spelled_append]
  rfl

theorem readItems_catchDirective {mark : List Char} (hmark : ∀ c ∈ mark, c ∉ specials) (fuel : Nat) :
    ∃ items last, readItems (fuel + 11 + mark.length + 11 + mark.length + 23) {} []
        { rest := opening ++ (mark ++ (middle ++ (mark ++ ending))) } = .ok (items, last) ∧
      items.map (·.pattern) = catchItems mark ∧
      last.rest = [] ∧ last.mentioned = [] ∧ last.refused = [] := by
  obtain ⟨first, hfirst, hfirstPatterns⟩ :=
    readItems_opening (fuel + 11 + mark.length + 11 + mark.length)
      (mark ++ (middle ++ (mark ++ ending)))
  obtain ⟨second, hsecond, hsecondPatterns⟩ :=
    readItems_middle (fuel + 11 + mark.length) (29 + mark.length)
      (mark.reverse.map plainItem ++ first) (mark ++ ending)
  obtain ⟨third, last, hthird, hthirdPatterns, hlast⟩ :=
    readItems_ending fuel (29 + mark.length + 15 + mark.length) (mark.reverse.map plainItem ++ second)
  refine ⟨third, last, ?_, ?_, hlast⟩
  · rw [hfirst, readItems_plainText hmark, hsecond, readItems_plainText hmark, hthird]
  · have hplain : (mark.reverse.map plainItem).map (·.pattern) = mark.reverse.map letter :=
      List.map_map
    rw [hthirdPatterns, List.map_append, hplain, hsecondPatterns, List.map_append, hplain,
      hfirstPatterns]
    rfl

theorem ofString_catchDirective {mark : String} (hmark : ∀ c ∈ mark.toList, c ∉ specials) :
    ofString (Listing.catchDirective mark) = .ok (catchPattern mark.toList) := by
  have hlength : opening.length = 29 ∧ middle.length = 15 ∧ ending.length = 11 := ⟨rfl, rfl, rfl⟩
  have hfuel : 4 * (Listing.catchDirective mark).toList.length + 4 =
      178 + 6 * mark.toList.length + 11 + mark.toList.length + 11 + mark.toList.length + 23 + 1 := by
    simp only [toList_catchDirective, List.length_append, hlength]
    omega
  obtain ⟨items, last, hread, hpatterns, hrest, hmentioned, hrefused⟩ :=
    readItems_catchDirective hmark (178 + 6 * mark.toList.length)
  have halternatives : readAlternatives (4 * (Listing.catchDirective mark).toList.length + 4) {}
      { rest := (Listing.catchDirective mark).toList } = .ok ([items], last) := by
    rw [hfuel, toList_catchDirective, readAlternatives]
    refine bind_eq_ok.mpr ⟨(items, last), hread, ?_⟩
    simp only [hrest]
    rfl
  have hchecked : checkMentioned last = .ok () ∧ checkRefused last = .ok () := by
    simp [checkMentioned, checkRefused, hmentioned, hrefused]
  refine bind_eq_ok.mpr ⟨([items], last), halternatives, ?_⟩
  have hjoined : (joinAlternatives {} [items]).1 = catchPattern mark.toList := by
    change (joinItems items).1 = _
    rw [joinItems_fst, hpatterns, joinPatterns_catchItems]
  simp only [hrest, hchecked, hjoined]
  rfl

theorem groupCount_catchPattern (mark : List Char) : (catchPattern mark).groupCount = 1 := by
  simp [catchPattern, startPart, endPart, handlerPart, groupCount, groupCount_spelled, letter]

/-! ### Finding the directive -/

variable {before chars : List Char} {captures : Captures} {place : Place}

/-- The name of the handler: the rest of the line from the colon on, but no further than a line
feed. -/
theorem run_handler_eq_some :
    run handlerPart ⟨before, chars, captures⟩ some = some place ↔
      ∃ name rest, chars = ':' :: (name ++ rest) ∧ name ≠ [] ∧ (∀ c ∈ name, c ≠ '\n') ∧
        (∀ c, rest.head? = some c → c = '\n') ∧
        place = ⟨name.reverse ++ ':' :: before, rest, (1, ⟨chars, rest⟩) :: captures⟩ := by
  have hinLine : ∀ c, CharSet.inLine.accepts c = true ↔ c ≠ '\n' := by
    simp [CharSet.inLine, CharSet.accepts]
  have hfeed : ∀ c, CharSet.inLine.accepts c = false ↔ c = '\n' := by
    simp [CharSet.inLine, CharSet.accepts]
  cases chars with
  | nil => simp [handlerPart, run, letter]
  | cons d tail =>
      by_cases hcolon : d = ':'
      · subst hcolon
        change run (.repeated (.one .inLine) 1 none false) ⟨':' :: before, tail, captures⟩
          (fun after => some { after with
            captures := (1, ⟨':' :: tail, after.rest⟩) :: after.captures }) = some place ↔ _
        rw [run_repeated_one, run_many_eq_some_of_forall fun _ => Option.some_ne_none _]
        constructor
        · rintro ⟨name, rest, rfl, hname, hrest, hleast, hplace⟩
          cases hplace
          exact ⟨name, rest, rfl, List.ne_nil_of_length_pos hleast,
            fun c hc => (hinLine c).mp (hname c hc), fun c hc => (hfeed c).mp (hrest c hc), rfl⟩
        · rintro ⟨name, rest, hchars, hnonempty, hname, hrest, rfl⟩
          cases hchars
          exact ⟨name, rest, rfl, fun c hc => (hinLine c).mpr (hname c hc),
            fun c hc => (hfeed c).mpr (hrest c hc), List.length_pos_of_ne_nil hnonempty, rfl⟩
      · simp [handlerPart, run, letter, CharSet.accepts, hcolon]

end Dalvik.Pattern

namespace Dalvik.Listing

/-- How a line spells the directive that names the handler of the block with the given mark. -/
structure CatchSpelling (mark line : String) where
  kind : List Char
  gap : List Char
  blanks : List Char
  name : List Char
  rest : List Char
  line_eq : line.toList = ".catch ".toList ++ (kind ++ (" \x7b:try_start_".toList ++ mark.toList ++
    (gap ++ (":try_end_".toList ++ mark.toList ++ ['\x7d'] ++ (blanks ++ ':' :: (name ++ rest))))))
  kind_ne : kind ≠ []
  kind_solid : ∀ c ∈ kind, Text.isBlank c = false
  gap_ne : gap ≠ []
  gap_chars : ∀ c ∈ gap, c = ' ' ∨ c = '.'
  blanks_blank : ∀ c ∈ blanks, Text.isBlank c = true
  name_ne : name ≠ []
  name_inLine : ∀ c ∈ name, c ≠ '\n'
  /-- The name extends to the end of the line. -/
  rest_head : ∀ c, rest.head? = some c → c = '\n'

/-- The label of the handler begins with the colon. -/
def CatchSpelling.handler {mark line : String} (spelling : CatchSpelling mark line) : String :=
  String.ofList (':' :: spelling.name)

theorem CatchSpelling.beginsWith {mark line : String} (spelling : CatchSpelling mark line) :
    Text.beginsWith ".catch " line = true := by
  rw [Text.beginsWith, List.isPrefixOf_iff_prefix, spelling.line_eq]
  exact List.prefix_append _ _

open Pattern

variable {mark line : String} {place : Place}

/-! The parts that repeat a set end where the next part begins: it cannot begin inside of them. -/

theorem run_startPart_of_solid (mark : List Char) {c : Char} {before rest : List Char}
    {captures : Captures}
    (hsolid : (CharSet.outside (.either .blank .nothing)).accepts c = true) :
    run (startPart mark) ⟨before, c :: rest, captures⟩ some = none := by
  rw [startPart]
  refine run_spelled_of_ne rfl ?_
  rintro rfl
  revert hsolid
  decide

theorem run_endPart_of_gap (mark : List Char) {c : Char} {before rest : List Char}
    {captures : Captures}
    (hgap : (CharSet.either (.only ' ') (.either (.only '.') .nothing)).accepts c = true) :
    run (endPart mark) ⟨before, c :: rest, captures⟩ some = none := by
  rw [endPart]
  refine run_spelled_of_ne rfl ?_
  rintro rfl
  revert hgap
  decide

theorem run_handlerPart_of_blank {c : Char} {before rest : List Char} {captures : Captures}
    (hblank : (CharSet.either .blank .nothing).accepts c = true) :
    run handlerPart ⟨before, c :: rest, captures⟩ some = none := by
  have hne : c ≠ ':' := by
    rintro rfl
    revert hblank
    decide
  simp [handlerPart, run, letter, CharSet.accepts, hne]

theorem group?_handler (before name rest : List Char) :
    (⟨before, rest, [(1, ⟨':' :: (name ++ rest), rest⟩)]⟩ : Place).group? 1 =
      some (String.ofList (':' :: name)) := by
  have hlength : (':' :: (name ++ rest)).length - rest.length = (':' :: name).length := by
    simp only [List.length_cons, List.length_append]
    omega
  have htext : (Capture.text ⟨':' :: (name ++ rest), rest⟩) = ':' :: name := by
    rw [Capture.text, hlength, ← List.cons_append, List.take_left]
  simp [Place.group?, htext]

/-- Where the pattern is found, the line spells the directive, and the group catches the handler. -/
theorem exists_spelling_of_search (hsearch : (catchPattern mark.toList).search line = some place) :
    ∃ spelling : CatchSpelling mark line, place.group? 1 = some spelling.handler := by
  rw [catchPattern, search_atStart, run_spelled_eq_some] at hsearch
  obtain ⟨_, hline, hrun⟩ := hsearch
  rw [run_repeated_both_eq_some fun _ _ _ => run_startPart_of_solid mark.toList] at hrun
  obtain ⟨kind, _, rfl, hkind, hkindLength, hrun⟩ := hrun
  rw [startPart, run_spelled_eq_some] at hrun
  obtain ⟨_, rfl, hrun⟩ := hrun
  rw [run_repeated_both_eq_some fun _ _ _ => run_endPart_of_gap mark.toList] at hrun
  obtain ⟨gap, _, rfl, hgap, hgapLength, hrun⟩ := hrun
  rw [endPart, run_spelled_eq_some] at hrun
  obtain ⟨_, rfl, hrun⟩ := hrun
  rw [run_repeated_both_eq_some fun _ _ _ => run_handlerPart_of_blank] at hrun
  obtain ⟨blanks, _, rfl, hblanks, -, hrun⟩ := hrun
  rw [run_handler_eq_some] at hrun
  obtain ⟨name, rest, rfl, hnameNe, hname, hrest, rfl⟩ := hrun
  have hsolid : ∀ c ∈ kind, Text.isBlank c = false :=
    fun c hc => by simpa [CharSet.accepts] using hkind c hc
  have hdots : ∀ c ∈ gap, c = ' ' ∨ c = '.' :=
    fun c hc => by simpa [CharSet.accepts] using hgap c hc
  have hspaces : ∀ c ∈ blanks, Text.isBlank c = true :=
    fun c hc => by simpa [CharSet.accepts] using hblanks c hc
  exact ⟨⟨kind, gap, blanks, name, rest, hline, List.ne_nil_of_length_pos hkindLength, hsolid,
    List.ne_nil_of_length_pos hgapLength, hdots, hspaces, hnameNe, hname, hrest⟩,
    group?_handler _ name rest⟩

/-- The pattern is found in every line that spells the directive. -/
theorem CatchSpelling.search_eq_some (spelling : CatchSpelling mark line) :
    ∃ place, (catchPattern mark.toList).search line = some place ∧
      place.group? 1 = some spelling.handler := by
  obtain ⟨kind, gap, blanks, name, rest, hline, hkindNe, hsolid, hgapNe, hdots, hspaces, hnameNe,
    hname, hrest⟩ := spelling
  have hkind : ∀ c ∈ kind, (CharSet.outside (.either .blank .nothing)).accepts c = true :=
    fun c hc => by simpa [CharSet.accepts] using hsolid c hc
  have hgap : ∀ c ∈ gap,
      (CharSet.either (.only ' ') (.either (.only '.') .nothing)).accepts c = true :=
    fun c hc => by simpa [CharSet.accepts] using hdots c hc
  have hblanks : ∀ c ∈ blanks, (CharSet.either .blank .nothing).accepts c = true :=
    fun c hc => by simpa [CharSet.accepts] using hspaces c hc
  suffices hfound : ∃ before, (catchPattern mark.toList).search line =
      some ⟨before, rest, [(1, ⟨':' :: (name ++ rest), rest⟩)]⟩ by
    obtain ⟨before, hsearch⟩ := hfound
    exact ⟨_, hsearch, group?_handler before name rest⟩
  -- part by part: no repetition reaches into the part behind it
  apply Exists.intro
  rw [catchPattern, search_atStart, run_spelled_eq_some]
  refine ⟨_, hline, ?_⟩
  rw [run_repeated_both_eq_some fun _ _ _ => run_startPart_of_solid mark.toList]
  refine ⟨kind, _, rfl, hkind, List.length_pos_of_ne_nil hkindNe, ?_⟩
  rw [startPart, run_spelled_eq_some]
  refine ⟨_, rfl, ?_⟩
  rw [run_repeated_both_eq_some fun _ _ _ => run_endPart_of_gap mark.toList]
  refine ⟨gap, _, rfl, hgap, List.length_pos_of_ne_nil hgapNe, ?_⟩
  rw [endPart, run_spelled_eq_some]
  refine ⟨_, rfl, ?_⟩
  rw [run_repeated_both_eq_some fun _ _ _ => run_handlerPart_of_blank]
  refine ⟨blanks, _, rfl, hblanks, Nat.zero_le _, ?_⟩
  rw [run_handler_eq_some]
  exact ⟨name, rest, rfl, hnameNe, hname, hrest, rfl⟩

/-- The pattern is not found in any other line. -/
theorem search_eq_none_iff :
    (catchPattern mark.toList).search line = none ↔ IsEmpty (CatchSpelling mark line) := by
  constructor
  · refine fun hnone => ⟨fun spelling => ?_⟩
    obtain ⟨place, hsearch, -⟩ := spelling.search_eq_some
    cases hnone.symm.trans hsearch
  · intro hempty
    by_contra hsome
    obtain ⟨place, hsearch⟩ := Option.ne_none_iff_exists'.mp hsome
    obtain ⟨spelling, -⟩ := exists_spelling_of_search hsearch
    exact hempty.false spelling

/-- The search for the directive stops at the first line that spells it. -/
theorem findCatch_of_spelling {lines : List String} {offset index : Nat}
    (spelling : CatchSpelling mark line) (hline : lines[offset]? = some line)
    (hfirst : ∀ earlier < offset, ∀ other, lines[earlier]? = some other →
      IsEmpty (CatchSpelling mark other)) :
    findCatch (catchPattern mark.toList) index lines =
      .ok (some (index + offset, some spelling.handler)) := by
  induction lines generalizing offset index with
  | nil => cases hline
  | cons head rest ih =>
      rw [findCatch]
      cases offset with
      | zero =>
          cases hline
          obtain ⟨place, hsearch, hgroup⟩ := spelling.search_eq_some
          simp [hsearch, hgroup, groupCount_catchPattern]
      | succ offset =>
          have hnone : (catchPattern mark.toList).search head = none :=
            search_eq_none_iff.mpr (hfirst 0 (Nat.zero_lt_succ _) head rfl)
          have hlater : ∀ earlier < offset, ∀ other, rest[earlier]? = some other →
              IsEmpty (CatchSpelling mark other) := fun earlier hlt other hother =>
            hfirst (earlier + 1) (Nat.succ_lt_succ hlt) other hother
          have hindex : index + 1 + offset = index + (offset + 1) := by omega
          simp only [hnone]
          rw [ih hline hlater, hindex]

end Dalvik.Listing
