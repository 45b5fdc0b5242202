import Dalvik.ClassName
import Dalvik.Proofs.Operands

/-!
# Class names of descriptors

The pattern of descriptors tries a mark `L` first, and its two repetitions share the letters of the
path between them. Whatever they give back to each other, together they take the longest run of
characters of paths, so what is accepted and what it names can be told from that run alone. The mark
is given up again where fewer than two characters would follow it: a class with a name of one letter
keeps its mark, and then has the name of another class.
-/

namespace Dalvik.ClassName

open Pattern

/-! ### The grammar of descriptors -/

def isPathChar (c : Char) : Bool :=
  Text.isWord c || c == '/'

/-- The path of a class begins with a letter. -/
def isPath : List Char → Bool
  | [] => false
  | c :: rest => Text.isAsciiLetter c && rest.all isPathChar

/-- What stands in a descriptor before the semicolon: a letter, and at least one character more. -/
def isBody (body : List Char) : Bool :=
  isPath body && decide (2 ≤ body.length)

/-- A text is a body, or a body and one semicolon. -/
def Describes (text : String) (body : List Char) : Prop :=
  isBody body = true ∧ (text.toList = body ∨ text.toList = body ++ [';'])

/-- The body without its mark: an `L` before a letter and at least one character more. -/
def unmarked (body : List Char) : List Char :=
  if body.head? = some 'L' ∧ body.tail.head?.any Text.isAsciiLetter = true ∧ 3 ≤ body.length then
    body.tail
  else body

theorem isPathChar_of_isAsciiLetter {c : Char} (hletter : Text.isAsciiLetter c = true) :
    isPathChar c = true := by
  have hascii : c.toNat < 128 := by
    simp only [Text.isAsciiLetter, Bool.or_eq_true, Bool.and_eq_true, decide_eq_true_eq,
      Char.le_def, UInt32.le_iff_toNat_le] at hletter
    change ((97 ≤ c.toNat ∧ c.toNat ≤ 122) ∨ 65 ≤ c.toNat ∧ c.toNat ≤ 90) at hletter
    omega
  simp [isPathChar, Text.isWord, hascii, hletter]

theorem isPathChar_of_isPath {path : List Char} (hpath : isPath path = true) :
    ∀ c ∈ path, isPathChar c = true := by
  cases path with
  | nil => exact fun c hmem => absurd hmem List.not_mem_nil
  | cons first rest =>
      obtain ⟨hletter, hrest⟩ := Bool.and_eq_true_iff.mp hpath
      intro c hmem
      rcases List.mem_cons.mp hmem with rfl | hmem
      · exact isPathChar_of_isAsciiLetter hletter
      · exact List.all_eq_true.mp hrest c hmem

theorem isBody_cons {c : Char} {rest : List Char} (hrest : ∀ d ∈ rest, isPathChar d = true) :
    isBody (c :: rest) = true ↔ Text.isAsciiLetter c = true ∧ 1 ≤ rest.length := by
  simp [isBody, isPath, List.all_eq_true.mpr hrest]

/-- A mark is dropped where a body is left without it. -/
theorem unmarked_cons {rest : List Char} (hrest : ∀ d ∈ rest, isPathChar d = true) :
    unmarked ('L' :: rest) = if isBody rest = true then rest else 'L' :: rest := by
  refine if_congr ?_ rfl rfl
  cases rest with
  | nil => simp [isBody, isPath]
  | cons c rest =>
      rw [isBody_cons fun d hmem => hrest d (List.mem_cons_of_mem c hmem)]
      simp

/-! ### Two repetitions that share their characters -/

def letterSet : CharSet :=
  .either .lowerLetter (.between 'A' 'Z')

def pathSet : CharSet :=
  .either .word (.only '/')

section Repetitions

variable {next : Place → Option Place} {captures : Captures} {before chars : List Char}

/-- The second repetition takes the whole run. -/
theorem run_pathSet (hnext : ∀ place, next place ≠ none) :
    run (.many pathSet 1) ⟨before, chars, captures⟩ next =
      if 1 ≤ (chars.takeWhile isPathChar).length then
        next ⟨(chars.takeWhile isPathChar).reverse ++ before, chars.dropWhile isPathChar, captures⟩
      else none :=
  manyFrom_eq fun _ _ _ _ _ after left => hnext ⟨after, left, captures⟩

/-- However many letters the first repetition takes, the run ends at the same place. -/
theorem manyFrom_letterSet (hnext : ∀ place, next place ≠ none) :
    manyFrom letterSet captures (fun middle => run (.many pathSet 1) middle next) 0 before chars =
      run (.many pathSet 1) ⟨before, chars, captures⟩ next := by
  induction chars generalizing before with
  | nil => rfl
  | cons c rest ih =>
      rw [manyFrom]
      by_cases hletter : Text.isAsciiLetter c = true
      · have hpath : isPathChar c = true := isPathChar_of_isAsciiLetter hletter
        rw [if_pos (show letterSet.accepts c = true from hletter), ih, run_pathSet hnext,
          run_pathSet hnext, List.takeWhile_cons_of_pos hpath, List.dropWhile_cons_of_pos hpath]
        by_cases hlonger : 1 ≤ (rest.takeWhile isPathChar).length
        · rw [if_pos hlonger, if_pos (by simp), List.reverse_cons, List.append_assoc]
          simp only [List.singleton_append]
          cases next _ <;> rfl
        · rw [if_neg hlonger, if_pos (by simp)]
          rfl
      · rw [if_neg (show ¬letterSet.accepts c = true from hletter)]
        rfl

/-- Both repetitions take the longest run of characters of paths, if it is a body. -/
theorem run_body (hnext : ∀ place, next place ≠ none) :
    run (.both (.many letterSet 1) (.many pathSet 1)) ⟨before, chars, captures⟩ next =
      if isBody (chars.takeWhile isPathChar) = true then
        next ⟨(chars.takeWhile isPathChar).reverse ++ before, chars.dropWhile isPathChar, captures⟩
      else none := by
  change manyFrom letterSet captures (fun middle => run (.many pathSet 1) middle next) 1 before
    chars = _
  cases chars with
  | nil => rfl
  | cons c rest =>
      rw [manyFrom]
      by_cases hletter : Text.isAsciiLetter c = true
      · have hpath : isPathChar c = true := isPathChar_of_isAsciiLetter hletter
        have hrest : ∀ d ∈ rest.takeWhile isPathChar, isPathChar d = true :=
          fun d hmem => List.mem_takeWhile_imp hmem
        rw [if_pos (show letterSet.accepts c = true from hletter), Nat.sub_self,
          manyFrom_letterSet hnext, run_pathSet hnext, List.takeWhile_cons_of_pos hpath,
          List.dropWhile_cons_of_pos hpath, List.reverse_cons, List.append_assoc]
        simp only [isBody_cons hrest, hletter, true_and, List.singleton_append, Nat.one_ne_zero,
          if_false]
        split
        · cases next _ <;> rfl
        · rfl
      · have hbody : ¬isBody ((c :: rest).takeWhile isPathChar) = true := by
          by_cases hpath : isPathChar c = true
          · simp [List.takeWhile_cons_of_pos hpath, isBody, isPath, hletter]
          · simp [List.takeWhile_cons_of_neg hpath, isBody, isPath]
        rw [if_neg (show ¬letterSet.accepts c = true from hletter), if_neg hbody]
        rfl

end Repetitions

/-! ### Whole descriptors -/

/-- What is left behind an optional semicolon. -/
def afterSemicolon : List Char → List Char
  | ';' :: rest => rest
  | rest => rest

/-- What a match of the pattern is asked for: the text behind it, and the path. -/
def answer (place : Place) : List Char × Option String :=
  (place.rest, place.group? 2)

/-- The path and the optional semicolon, behind the mark. -/
def pathPattern : Pattern :=
  .both (.group 2 (.both (.many letterSet 1) (.many pathSet 1)))
    (.both (.optional (text ";")) .empty)

theorem run_semicolon (before rest : List Char) (captures : Captures) :
    ∃ after, run (.both (.optional (text ";")) .empty) ⟨before, rest, captures⟩ some =
      some ⟨after, afterSemicolon rest, captures⟩ := by
  cases rest with
  | nil => exact ⟨before, rfl⟩
  | cons c rest =>
      by_cases hsemicolon : c = ';'
      · subst hsemicolon
        exact ⟨';' :: before, rfl⟩
      · refine ⟨before, ?_⟩
        have hother : afterSemicolon (c :: rest) = c :: rest := by
          unfold afterSemicolon
          split
          · rename_i hchars
            exact absurd (List.cons.inj hchars).1 hsemicolon
          · rfl
        simp [hother, Pattern.optional, text, ofText, run, CharSet.accepts, hsemicolon, orTry]

theorem run_pathPattern (before chars : List Char) (captures : Captures) :
    (run pathPattern ⟨before, chars, captures⟩ some).map answer =
      if isBody (chars.takeWhile isPathChar) = true then
        some (afterSemicolon (chars.dropWhile isPathChar),
          some (String.ofList (chars.takeWhile isPathChar)))
      else none := by
  have htotal : ∀ place : Place,
      run (.both (.optional (text ";")) .empty)
        { place with captures := (2, ⟨chars, place.rest⟩) :: place.captures } some ≠ none := by
    intro place hnone
    obtain ⟨after, hsome⟩ :=
      run_semicolon place.before place.rest ((2, ⟨chars, place.rest⟩) :: place.captures)
    rw [hsome] at hnone
    cases hnone
  have hgroup : Capture.text ⟨chars, chars.dropWhile isPathChar⟩ = chars.takeWhile isPathChar := by
    have hsplit : chars.takeWhile isPathChar ++ chars.dropWhile isPathChar = chars :=
      List.takeWhile_append_dropWhile
    have htext := Capture.text_append (chars.takeWhile isPathChar) (chars.dropWhile isPathChar)
    rwa [hsplit] at htext
  change (run (.both (.many letterSet 1) (.many pathSet 1)) ⟨before, chars, captures⟩ _).map _ = _
  rw [run_body htotal]
  split
  · obtain ⟨after, hsome⟩ := run_semicolon ((chars.takeWhile isPathChar).reverse ++ before)
      (chars.dropWhile isPathChar) ((2, ⟨chars, chars.dropWhile isPathChar⟩) :: captures)
    rw [hsome, Option.map_some, answer, Place.group?, List.lookup_cons_self, Option.map_some,
      hgroup]
  · rfl

theorem orTry_map {α : Type} (first second : Option Place) (f : Place → α) :
    (orTry first fun _ => second).map f = (first.map f).or (second.map f) := by
  cases first <;> rfl

/-- Behind a mark the path is tried first without it, and then with it. -/
theorem matchStart_of_mark {text : String} {rest : List Char} (hmark : text.toList = 'L' :: rest) :
    descriptor.matchStart text =
      orTry (run pathPattern ⟨['L'], rest, [(1, ⟨'L' :: rest, rest⟩)]⟩ some) fun _ =>
        run pathPattern ⟨[], 'L' :: rest, [(1, ⟨'L' :: rest, 'L' :: rest⟩)]⟩ some := by
  rw [matchStart, hmark]
  rfl

theorem matchStart_of_no_mark {text : String} (hmark : text.toList.head? ≠ some 'L') :
    descriptor.matchStart text =
      run pathPattern ⟨[], text.toList, [(1, ⟨text.toList, text.toList⟩)]⟩ some := by
  have hfails : Fails (Pattern.text "L") text.toList := by
    apply fails_text
    rintro ⟨rest, hrest⟩
    rw [← hrest] at hmark
    exact hmark rfl
  change orTry (run (Pattern.text "L") ⟨[], text.toList, []⟩ fun after => run pathPattern
      { after with captures := (1, ⟨text.toList, after.rest⟩) :: after.captures } some)
    (fun _ => run pathPattern ⟨[], text.toList, [(1, ⟨text.toList, text.toList⟩)]⟩ some) = _
  rw [hfails]
  rfl

/-- The pattern takes the longest run of characters of paths if it is a body, and an optional
semicolon behind it. -/
theorem matchStart_descriptor (text : String) :
    (descriptor.matchStart text).map answer =
      if isBody (text.toList.takeWhile isPathChar) = true then
        some (afterSemicolon (text.toList.dropWhile isPathChar),
          some (String.ofList (unmarked (text.toList.takeWhile isPathChar))))
      else none := by
  by_cases hmark : text.toList.head? = some 'L'
  · obtain ⟨rest, hchars⟩ := List.head?_eq_some_iff.mp hmark
    have hpath : isPathChar 'L' = true := by decide
    have hrest : ∀ d ∈ rest.takeWhile isPathChar, isPathChar d = true :=
      fun d hmem => List.mem_takeWhile_imp hmem
    rw [matchStart_of_mark hchars, orTry_map, run_pathPattern, run_pathPattern, hchars,
      List.takeWhile_cons_of_pos hpath, List.dropWhile_cons_of_pos hpath, unmarked_cons hrest]
    by_cases hbody : isBody (rest.takeWhile isPathChar) = true
    · have hlength : 2 ≤ (rest.takeWhile isPathChar).length := by
        simpa using (Bool.and_eq_true_iff.mp hbody).2
      have hmarked : isBody ('L' :: rest.takeWhile isPathChar) = true :=
        (isBody_cons hrest).mpr ⟨by decide, by omega⟩
      simp [hbody, hmarked]
    · simp [hbody]
  · have hplain : unmarked (text.toList.takeWhile isPathChar) =
        text.toList.takeWhile isPathChar := by
      refine if_neg fun hdropped => hmark ?_
      cases hchars : text.toList with
      | nil => simp [hchars] at hdropped
      | cons c rest =>
          rw [hchars, List.takeWhile_cons] at hdropped
          split at hdropped
          · exact hdropped.1
          · simp at hdropped
    rw [matchStart_of_no_mark hmark, run_pathPattern, hplain]

theorem afterSemicolon_eq_nil {rest : List Char} :
    afterSemicolon rest = [] ↔ rest = [] ∨ rest = [';'] := by
  unfold afterSemicolon
  split
  · simp
  · rename_i hother
    constructor
    · exact Or.inl
    · rintro (rfl | rfl)
      · rfl
      · exact absurd rfl (hother [])

/-- A text describes a body if the body is its longest run of characters of paths, and nothing but
an optional semicolon follows. -/
theorem describes_iff {text : String} {body : List Char} :
    Describes text body ↔ isBody (text.toList.takeWhile isPathChar) = true ∧
      afterSemicolon (text.toList.dropWhile isPathChar) = [] ∧
      body = text.toList.takeWhile isPathChar := by
  rw [afterSemicolon_eq_nil]
  have hsplit : text.toList.takeWhile isPathChar ++ text.toList.dropWhile isPathChar =
      text.toList := List.takeWhile_append_dropWhile
  constructor
  · rintro ⟨hbody, htext⟩
    have hchars : ∀ c ∈ body, isPathChar c = true :=
      isPathChar_of_isPath (Bool.and_eq_true_iff.mp hbody).1
    obtain ⟨rest, hrest, hends, hstop⟩ : ∃ rest, text.toList = body ++ rest ∧
        (rest = [] ∨ rest = [';']) ∧ ∀ c, rest.head? = some c → isPathChar c = false := by
      rcases htext with htext | htext
      · exact ⟨[], by simpa using htext, Or.inl rfl, by simp⟩
      · refine ⟨[';'], htext, Or.inr rfl, ?_⟩
        rintro c ⟨⟩
        decide
    obtain ⟨hrun, hleft⟩ := longest_run hchars hstop
    rw [hrest, hrun, hleft]
    exact ⟨hbody, hends, rfl⟩
  · rintro ⟨hbody, hends, rfl⟩
    refine ⟨hbody, ?_⟩
    rcases hends with hends | hends
    · rw [hends, List.append_nil] at hsplit
      exact Or.inl hsplit.symm
    · rw [hends] at hsplit
      exact Or.inr hsplit.symm

theorem ofDescriptor_eq (text : String) :
    ofDescriptor text =
      if isBody (text.toList.takeWhile isPathChar) = true ∧
          afterSemicolon (text.toList.dropWhile isPathChar) = [] then
        .ok (dotted (String.ofList (unmarked (text.toList.takeWhile isPathChar))))
      else .error (.badClassName text) := by
  have hmatch := matchStart_descriptor text
  unfold ofDescriptor
  cases hplace : descriptor.matchStart text with
  | none =>
      rw [hplace] at hmatch
      have hbody : ¬isBody (text.toList.takeWhile isPathChar) = true := by
        intro hbody
        simp [hbody] at hmatch
      simp [hbody]
  | some place =>
      rw [hplace, Option.map_some] at hmatch
      by_cases hbody : isBody (text.toList.takeWhile isPathChar) = true
      · rw [if_pos hbody, Option.some_inj, answer, Prod.mk.injEq] at hmatch
        obtain ⟨hrest, hgroup⟩ := hmatch
        simp only [hrest, hgroup, hbody, true_and]
        split
        · rename_i hnil hpath
          cases hpath
          rw [if_pos hnil]
        · rename_i hother
          rw [if_neg fun hnil => hother _ hnil rfl]
      · rw [if_neg hbody] at hmatch
        cases hmatch

theorem ofDescriptor_of_describes {text : String} {body : List Char}
    (hdescribes : Describes text body) :
    ofDescriptor text = .ok (dotted (String.ofList (unmarked body))) := by
  obtain ⟨hbody, hends, rfl⟩ := describes_iff.mp hdescribes
  rw [ofDescriptor_eq, if_pos ⟨hbody, hends⟩]

theorem ofDescriptor_of_not_describes {text : String} (hnone : ∀ body, ¬Describes text body) :
    ofDescriptor text = .error (.badClassName text) := by
  rw [ofDescriptor_eq, if_neg]
  rintro ⟨hbody, hends⟩
  exact hnone _ (describes_iff.mpr ⟨hbody, hends, rfl⟩)

/-! ### The names -/

theorem mem_of_mem_unmarked {body : List Char} {c : Char} (hmem : c ∈ unmarked body) :
    c ∈ body := by
  unfold unmarked at hmem
  split at hmem
  · exact List.mem_of_mem_tail hmem
  · exact hmem

theorem toList_dotted (path : List Char) :
    (dotted (String.ofList path)).toList = path.map fun c => if c = '/' then '.' else c := by
  simp [dotted]

/-- A name is written with dots and has neither slashes nor semicolons. -/
theorem plain_dotted {path : List Char} (hpath : ∀ c ∈ path, isPathChar c = true) :
    '/' ∉ (dotted (String.ofList path)).toList ∧ ';' ∉ (dotted (String.ofList path)).toList := by
  rw [toList_dotted]
  constructor
  · intro hmem
    obtain ⟨c, -, hc⟩ := List.mem_map.mp hmem
    split at hc
    · exact absurd hc (by decide)
    · rename_i hslash
      exact hslash hc
  · intro hmem
    obtain ⟨c, hc, hsemicolon⟩ := List.mem_map.mp hmem
    split at hsemicolon
    · exact absurd hsemicolon (by decide)
    · subst hsemicolon
      exact absurd (hpath ';' hc) (by decide)

/-- **The grammar of descriptors.** A text has a class name exactly if it describes a body; every
other text is refused. The name is the body without its mark, with dots for the slashes, and has
neither slashes nor semicolons. -/
theorem ofDescriptor_exact (text : String) :
    ((∃ name, ofDescriptor text = .ok name) ↔ ∃ body, Describes text body) ∧
      ((¬∃ body, Describes text body) → ofDescriptor text = .error (.badClassName text)) ∧
      ∀ body, Describes text body →
        ofDescriptor text = .ok (dotted (String.ofList (unmarked body))) ∧
          '/' ∉ (dotted (String.ofList (unmarked body))).toList ∧
          ';' ∉ (dotted (String.ofList (unmarked body))).toList := by
  refine ⟨⟨?_, ?_⟩, ?_, ?_⟩
  · rintro ⟨name, hname⟩
    by_contra hnone
    rw [ofDescriptor_of_not_describes fun body hbody => hnone ⟨body, hbody⟩] at hname
    cases hname
  · rintro ⟨body, hdescribes⟩
    exact ⟨_, ofDescriptor_of_describes hdescribes⟩
  · intro hnone
    exact ofDescriptor_of_not_describes fun body hbody => hnone ⟨body, hbody⟩
  · intro body hdescribes
    have hchars : ∀ c ∈ body, isPathChar c = true :=
      isPathChar_of_isPath (Bool.and_eq_true_iff.mp hdescribes.1).1
    exact ⟨ofDescriptor_of_describes hdescribes,
      plain_dotted fun c hmem => hchars c (mem_of_mem_unmarked hmem)⟩

/-- A path that begins with the letter of the mark, and a descriptor with something behind it. -/
theorem ofDescriptor_exact_nested :
    (Describes "LL/_1;" ['L', 'L', '/', '_', '1'] ∧ ofDescriptor "LL/_1;" = .ok "L._1") ∧
      (¬∃ body, Describes "La/b;->c" body) ∧
      ofDescriptor "La/b;->c" = .error (.badClassName "La/b;->c") := by
  have hdescribes : Describes "LL/_1;" ['L', 'L', '/', '_', '1'] :=
    ⟨by decide, Or.inr (by decide)⟩
  have hnone : ¬∃ body, Describes "La/b;->c" body := by
    rintro ⟨body, hdescribes⟩
    have hends := (describes_iff.mp hdescribes).2.1
    revert hends
    decide
  exact ⟨⟨hdescribes, ((ofDescriptor_exact "LL/_1;").2.2 _ hdescribes).1⟩, hnone,
    (ofDescriptor_exact "La/b;->c").2.1 hnone⟩

/-! ### Descriptors of different classes -/

/-- The path that is left of a marked one: the mark is kept before a single letter. -/
def keptPath (path : String) : String :=
  if path.length = 1 then "L" ++ path else path

section Marked

variable {path other ending : String}

theorem length_pos_of_isPath (hpath : isPath path.toList = true) : 1 ≤ path.length := by
  rw [← String.length_toList]
  cases hchars : path.toList with
  | nil => simp [hchars, isPath] at hpath
  | cons c rest => simp

theorem describes_marked (hpath : isPath path.toList = true)
    (hending : ending = "" ∨ ending = ";") :
    Describes ("L" ++ path ++ ending) ('L' :: path.toList) := by
  constructor
  · have hlength := length_pos_of_isPath hpath
    rw [← String.length_toList] at hlength
    exact (isBody_cons (isPathChar_of_isPath hpath)).mpr ⟨by decide, hlength⟩
  · rcases hending with rfl | rfl
    · left
      simp
    · right
      simp

theorem unmarked_marked (hpath : isPath path.toList = true) :
    unmarked ('L' :: path.toList) = (keptPath path).toList := by
  have hlength := length_pos_of_isPath hpath
  have hbody : isBody path.toList = true ↔ path.length ≠ 1 := by
    rw [isBody, hpath, Bool.true_and, decide_eq_true_eq, String.length_toList]
    omega
  rw [unmarked_cons (isPathChar_of_isPath hpath), keptPath]
  by_cases hshort : path.length = 1
  · rw [if_neg fun h => hbody.mp h hshort, if_pos hshort]
    simp
  · rw [if_pos (hbody.mpr hshort), if_neg hshort]

theorem ofDescriptor_marked (hpath : isPath path.toList = true)
    (hending : ending = "" ∨ ending = ";") :
    ofDescriptor ("L" ++ path ++ ending) = .ok (dotted (keptPath path)) := by
  rw [ofDescriptor_of_describes (describes_marked hpath hending), unmarked_marked hpath,
    String.ofList_toList]

theorem dot_notMem_keptPath (hpath : isPath path.toList = true) : '.' ∉ (keptPath path).toList := by
  rw [← unmarked_marked hpath]
  intro hmem
  rcases List.mem_cons.mp (mem_of_mem_unmarked hmem) with hmark | hmem
  · exact absurd hmark (by decide)
  · exact absurd (isPathChar_of_isPath hpath '.' hmem) (by decide)

/-- A letter has no slash to be replaced. -/
theorem dotted_keptPath_of_letter (hpath : isPath path.toList = true) (hshort : path.length = 1) :
    dotted (keptPath path) = "L" ++ path := by
  have hslash : ∀ c ∈ path.toList, c ≠ '/' := by
    intro c hmem
    cases hchars : path.toList with
    | nil => simp [hchars] at hmem
    | cons first rest =>
        rw [← String.length_toList, hchars, List.length_cons, Nat.succ_inj,
          List.length_eq_zero_iff] at hshort
        rw [hchars, isPath, Bool.and_eq_true] at hpath
        rw [hchars, hshort, List.mem_singleton] at hmem
        rintro rfl
        rw [← hmem] at hpath
        exact absurd hpath.1 (by decide)
  have hsame : path.toList.map (fun c => if c = '/' then '.' else c) = path.toList := by
    rw [List.map_congr_left fun c hmem => if_neg (hslash c hmem), List.map_id']
  rw [keptPath, if_pos hshort, dotted, String.toList_append, List.map_append, hsame,
    String.ofList_append, String.ofList_toList]
  rfl

/-- A path without dots can be read back from its name. -/
theorem slashed_dotted (hpath : '.' ∉ path.toList) :
    (dotted path).toList.map (fun c => if c = '.' then '/' else c) = path.toList := by
  rw [dotted, String.toList_ofList, List.map_map]
  refine (List.map_congr_left ?_).trans (List.map_id' path.toList)
  intro c hmem
  have hdot : c ≠ '.' := fun hdot => hpath (hdot ▸ hmem)
  by_cases hslash : c = '/'
  · simp [hslash]
  · simp [hslash, hdot]

theorem dotted_inj (hpath : '.' ∉ path.toList) (hother : '.' ∉ other.toList) :
    dotted path = dotted other ↔ path = other := by
  refine ⟨fun hsame => ?_, congrArg dotted⟩
  apply String.toList_inj.mp
  rw [← slashed_dotted hpath, ← slashed_dotted hother, hsame]

/-- Only the path of one letter is taken for another one, that which begins with the mark. -/
theorem keptPath_eq_iff :
    keptPath path = keptPath other ↔ path = other ∨
      (path.length = 1 ∧ other = "L" ++ path) ∨ (other.length = 1 ∧ path = "L" ++ other) := by
  have hmarked : ∀ short long : String, short.length = 1 → long = "L" ++ short →
      long.length ≠ 1 := by
    rintro short _ hshort rfl
    rw [String.length_append, hshort]
    decide
  unfold keptPath
  by_cases hpath : path.length = 1 <;> by_cases hother : other.length = 1
  · rw [if_pos hpath, if_pos hother]
    constructor
    · intro hsame
      exact Or.inl (String.append_right_inj "L" |>.mp hsame)
    · rintro (rfl | ⟨-, hlong⟩ | ⟨-, hlong⟩)
      · rfl
      · exact absurd hother (hmarked _ _ hpath hlong)
      · exact absurd hpath (hmarked _ _ hother hlong)
  · rw [if_pos hpath, if_neg hother]
    constructor
    · intro hsame
      exact Or.inr (Or.inl ⟨hpath, hsame.symm⟩)
    · rintro (rfl | ⟨-, hlong⟩ | ⟨hshort, -⟩)
      · exact absurd hpath hother
      · exact hlong.symm
      · exact absurd hshort hother
  · rw [if_neg hpath, if_pos hother]
    constructor
    · intro hsame
      exact Or.inr (Or.inr ⟨hother, hsame⟩)
    · rintro (rfl | ⟨hshort, -⟩ | ⟨-, hlong⟩)
      · exact absurd hother hpath
      · exact absurd hshort hpath
      · exact hlong
  · rw [if_neg hpath, if_neg hother]
    constructor
    · exact Or.inl
    · rintro (hsame | ⟨hshort, -⟩ | ⟨hshort, -⟩)
      · exact hsame
      · exact absurd hshort hpath
      · exact absurd hshort hother

end Marked

/-- **Class names of marked paths.** With or without the semicolon, a mark and a path give the path
with dots for its slashes, unless the path is a single letter: then the mark is kept. So two paths
have the same name exactly if they are the same, or if one is a single letter and the other that
letter behind an `L`. -/
theorem ofDescriptor_marked_exact (path ending : String) (hpath : isPath path.toList = true)
    (hending : ending = "" ∨ ending = ";") :
    ofDescriptor ("L" ++ path ++ ending) =
        .ok (if path.length = 1 then "L" ++ path else dotted path) ∧
      ∀ other last : String, isPath other.toList = true → last = "" ∨ last = ";" →
        (ofDescriptor ("L" ++ path ++ ending) = ofDescriptor ("L" ++ other ++ last) ↔
          path = other ∨ (path.length = 1 ∧ other = "L" ++ path) ∨
            (other.length = 1 ∧ path = "L" ++ other)) := by
  rw [ofDescriptor_marked hpath hending]
  constructor
  · by_cases hshort : path.length = 1
    · rw [dotted_keptPath_of_letter hpath hshort, if_pos hshort]
    · rw [keptPath, if_neg hshort, if_neg hshort]
  · intro other last hother hlast
    rw [ofDescriptor_marked hother hlast, Except.ok.injEq,
      dotted_inj (dot_notMem_keptPath hpath) (dot_notMem_keptPath hother), keptPath_eq_iff]

/-- A short path, a path of one letter, and the path with which it is confused. -/
theorem ofDescriptor_marked_exact_short :
    (isPath "L/b".toList = true ∧ isPath "L".toList = true ∧ isPath "LL".toList = true) ∧
      ofDescriptor ("L" ++ "L/b" ++ ";") = .ok "L.b" ∧
      ofDescriptor ("L" ++ "L" ++ "") = .ok "LL" ∧
      ofDescriptor ("L" ++ "L" ++ "") = ofDescriptor ("L" ++ "LL" ++ ";") := by
  have hpaths : isPath "L/b".toList = true ∧ isPath "L".toList = true ∧
      isPath "LL".toList = true := by
    decide
  obtain ⟨hlong, hletter, hdouble⟩ := hpaths
  obtain ⟨hname, hsame⟩ := ofDescriptor_marked_exact "L" "" hletter (Or.inl rfl)
  refine ⟨⟨hlong, hletter, hdouble⟩, ?_, hname, ?_⟩
  · exact (ofDescriptor_marked_exact "L/b" ";" hlong (Or.inr rfl)).1
  · exact (hsame "LL" ";" hdouble (Or.inr rfl)).mpr (Or.inr (Or.inl ⟨by decide, by decide⟩))

/-- The class `a` is not named by its path, and has the name of the class `La`. -/
theorem letter_class_keeps_mark :
    isPath "a".toList = true ∧ isPath "La".toList = true ∧ "a" ≠ "La" ∧
      ofDescriptor ("L" ++ "a" ++ ";") ≠ .ok (dotted "a") ∧
      ofDescriptor ("L" ++ "a" ++ ";") = ofDescriptor ("L" ++ "La" ++ ";") := by
  decide +kernel

end Dalvik.ClassName
