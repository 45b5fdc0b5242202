import Dalvik.Instruction.Execute
import Dalvik.Proofs.GuardedBlocks
import Dalvik.Proofs.Operands
import Mathlib.Data.List.Chain

/-!
# Printed instructions

A statement is an instruction together with the variant of its mnemonic. Its operands carry what is
asked of their texts: no blanks, commas or braces, a colon before the name of a label, and one arrow
in a callee. It is printed with a single space behind the mnemonic, and any spaces and tabs behind
the commas.
-/

namespace Dalvik

/-! ### Printing -/

/-- A nonempty run of digits. -/
structure Digits where
  text : String
  ne_empty : text ≠ ""
  digits : text.toList.all Text.isDigit = true

theorem Digits.isDigit (digits : Digits) {c : Char} (hmem : c ∈ digits.text.toList) :
    Text.isDigit c = true :=
  List.all_eq_true.mp digits.digits c hmem

theorem Digits.length_pos (digits : Digits) : 0 < digits.text.toList.length :=
  List.length_pos_iff.mpr (by simpa using digits.ne_empty)

/-- A nonempty run of small letters. -/
structure Letters where
  text : String
  ne_empty : text ≠ ""
  letters : text.toList.all CharSet.lowerLetter.accepts = true

theorem Letters.lower (letters : Letters) {c : Char} (hmem : c ∈ letters.text.toList) :
    CharSet.lowerLetter.accepts c = true :=
  List.all_eq_true.mp letters.letters c hmem

theorem Letters.length_pos (letters : Letters) : 0 < letters.text.toList.length :=
  List.length_pos_iff.mpr (by simpa using letters.ne_empty)

/-- What an array or a field holds. -/
inductive ItemKind where
  | wide
  | object
  | boolean
  | byte
  | char
  | short
deriving DecidableEq, Repr

def ItemKind.letters : ItemKind → Letters
  | .wide => ⟨"wide", by decide, by decide⟩
  | .object => ⟨"object", by decide, by decide⟩
  | .boolean => ⟨"boolean", by decide, by decide⟩
  | .byte => ⟨"byte", by decide, by decide⟩
  | .char => ⟨"char", by decide, by decide⟩
  | .short => ⟨"short", by decide, by decide⟩

/-- How a callee is found. -/
inductive CallKind where
  | virtual
  | super
  | direct
  | static
  | interface
deriving DecidableEq, Repr

def CallKind.letters : CallKind → Letters
  | .virtual => ⟨"virtual", by decide, by decide⟩
  | .super => ⟨"super", by decide, by decide⟩
  | .direct => ⟨"direct", by decide, by decide⟩
  | .static => ⟨"static", by decide, by decide⟩
  | .interface => ⟨"interface", by decide, by decide⟩

/-- The widths of literals. -/
inductive LiteralWidth where
  | lit8
  | lit16
deriving DecidableEq, Repr

def LiteralWidth.digits : LiteralWidth → Digits
  | .lit8 => ⟨"8", by decide, by decide⟩
  | .lit16 => ⟨"16", by decide, by decide⟩

/-- Values that take more than a plain `return`. -/
inductive ResultKind where
  | wide
  | object
deriving DecidableEq, Repr

def ResultKind.letters : ResultKind → Letters
  | .wide => ⟨"wide", by decide, by decide⟩
  | .object => ⟨"object", by decide, by decide⟩

/-- A class and a method, with the only arrow between them. -/
structure Callee extends Token where
  className : String
  method : String
  text_eq : text = className ++ ";->" ++ method
  only_arrow : ∀ before behind, text.toList = before ++ ";->".toList ++ behind →
    before = className.toList

/-- An instruction as it can be printed: the variant of its mnemonic and its operands. -/
inductive Statement where
  | const (width : Option Digits) (target literal : Token)
  | move (ofObject : Bool) (target source : Token)
  | moveResult (ofObject : Bool) (target : Token)
  | moveException (target : Token)
  | branch (test : Comparison) (left right : Token) (label : JumpLabel)
  | branchZero (test : Comparison) (source : Token) (label : JumpLabel)
  | goto (width : Option Digits) (label : JumpLabel)
  | packedSwitch (source table : Token)
  | arrayLength (target array : Token)
  | fillArray (target label : Token)
  | newArray (target size className : Token)
  | arrayGet (kind : Option ItemKind) (target array index : Token)
  | arrayPut (kind : Option ItemKind) (source array index : Token)
  | arithmetic (operation : Arithmetic) (target left right : Token)
  | literalArithmetic (operation : LiteralArithmetic) (width : LiteralWidth)
      (target source literal : Token)
  | xorInto (twoAddresses : Bool) (target source : Token)
  | convert (kind : Letters) (target source : Token)
  | staticGet (kind : Option ItemKind) (target field : Token)
  | staticPut (kind : Option ItemKind) (source field : Token)
  | newInstance (target className : Token)
  | invoke (kind : CallKind) (receiver : Token) (registers : List Token) (callee : Callee)
  | leave (kind : Option ResultKind) (source : Token)
  | leaveVoid

namespace Statement

def form : Statement → Form
  | .const .. => .const
  | .move .. => .move
  | .moveResult .. => .moveResult
  | .moveException .. => .moveException
  | .branch test .. => .branch test
  | .branchZero test .. => .branchZero test
  | .goto .. => .goto
  | .packedSwitch .. => .packedSwitch
  | .arrayLength .. => .arrayLength
  | .fillArray .. => .fillArray
  | .newArray .. => .newArray
  | .arrayGet .. => .arrayGet
  | .arrayPut .. => .arrayPut
  | .arithmetic operation .. => .arithmetic operation
  | .literalArithmetic operation .. => .literalArithmetic operation
  | .xorInto .. => .xorInto
  | .convert .. => .convert
  | .staticGet .. => .staticGet
  | .staticPut .. => .staticPut
  | .newInstance .. => .newInstance
  | .invoke .. => .invoke
  | .leave .. => .exit
  | .leaveVoid => .exit

/-- A mnemonic that may end in a mark and something behind it. -/
def marked (base mark : String) : Option String → String
  | none => base
  | some ending => base ++ mark ++ ending

def withEnding (base ending : String) (present : Bool) : String :=
  if present then base ++ ending else base

def mnemonic : Statement → String
  | .const width .. => marked "const" "/" (width.map (·.text))
  | .move ofObject .. => withEnding "move" "-object" ofObject
  | .moveResult ofObject .. => withEnding "move-result" "-object" ofObject
  | .moveException .. => "move-exception"
  | .branch test .. => "if-" ++ test.mnemonic
  | .branchZero test .. => "if-" ++ test.mnemonic ++ "z"
  | .goto width .. => marked "goto" "/" (width.map (·.text))
  | .packedSwitch .. => "packed-switch"
  | .arrayLength .. => "array-length"
  | .fillArray .. => "fill-array-data"
  | .newArray .. => "new-array"
  | .arrayGet kind .. => marked "aget" "-" (kind.map (·.letters.text))
  | .arrayPut kind .. => marked "aput" "-" (kind.map (·.letters.text))
  | .arithmetic operation .. => operation.mnemonic ++ "-int"
  | .literalArithmetic operation width .. => operation.mnemonic ++ "-int/lit" ++ width.digits.text
  | .xorInto twoAddresses .. => withEnding "xor-int" "/2addr" twoAddresses
  | .convert kind .. => "int-to-" ++ kind.text
  | .staticGet kind .. => marked "sget" "-" (kind.map (·.letters.text))
  | .staticPut kind .. => marked "sput" "-" (kind.map (·.letters.text))
  | .newInstance .. => "new-instance"
  | .invoke kind .. => "invoke-" ++ kind.letters.text
  | .leave kind .. => marked "return" "-" (kind.map (·.letters.text))
  | .leaveVoid => "return-void"

/-- The operands that stand in the line, those of a call from its registers on. -/
def operands : Statement → List Token
  | .const _ target literal => [target, literal]
  | .move _ target source => [target, source]
  | .moveResult _ target => [target]
  | .moveException target => [target]
  | .branch _ left right label => [left, right, label.toToken]
  | .branchZero _ source label => [source, label.toToken]
  | .goto _ label => [label.toToken]
  | .packedSwitch source table => [source, table]
  | .arrayLength target array => [target, array]
  | .fillArray target label => [target, label]
  | .newArray target size className => [target, size, className]
  | .arrayGet _ target array index => [target, array, index]
  | .arrayPut _ source array index => [source, array, index]
  | .arithmetic _ target left right => [target, left, right]
  | .literalArithmetic _ _ target source literal => [target, source, literal]
  | .xorInto _ target source => [target, source]
  | .convert _ target source => [target, source]
  | .staticGet _ target field => [target, field]
  | .staticPut _ source field => [source, field]
  | .newInstance target className => [target, className]
  | .invoke _ receiver registers callee => receiver :: registers ++ [callee.toToken]
  | .leave _ source => [source]
  | .leaveVoid => []

/-- The operands in one text; the registers of a call stand in braces. -/
def body (gaps : Nat → Gap) : Statement → String
  | .invoke _ receiver registers callee =>
    "\x7b" ++ joined gaps 0 (receiver :: registers) ++ "\x7d," ++
      (gaps (registers.length + 1)).text ++ callee.text
  | statement => joined gaps 0 statement.operands

/-- The line that writes the statement, with the given gaps behind its commas. -/
def print (gaps : Nat → Gap) : Statement → String
  | .leaveVoid => "return-void"
  | statement => statement.mnemonic ++ " " ++ statement.body gaps

/-- What the form receives: the variant of the mnemonic if it is told, and the operands. -/
def received (gaps : Nat → Gap) : Statement → List (Option String)
  | .convert kind target source => [some kind.text, some target.text, some source.text]
  | .invoke _ receiver registers callee =>
    [some (joined gaps 0 (receiver :: registers)), some callee.text]
  | .leave kind source => [kind.map fun kind => "-" ++ kind.letters.text, some source.text]
  | .leaveVoid => [some "-void", none]
  | statement => statement.operands.map fun token => some token.text

def instruction : Statement → Instruction
  | .const _ target literal => .const target.text literal.text
  | .move _ target source => .move target.text source.text
  | .moveResult _ target => .moveResult target.text
  | .moveException target => .moveException target.text
  | .branch test left right label => .branch test left.text right.text label.text
  | .branchZero test source label => .branchZero test source.text label.text
  | .goto _ label => .goto label.text
  | .packedSwitch source table => .packedSwitch source.text table.text
  | .arrayLength target array => .arrayLength target.text array.text
  | .fillArray target label => .fillArray target.text label.text
  | .newArray target size className => .newArray target.text size.text className.text
  | .arrayGet _ target array index => .arrayGet target.text array.text index.text
  | .arrayPut _ source array index => .arrayPut source.text array.text index.text
  | .arithmetic operation target left right =>
    .arithmetic operation target.text left.text right.text
  | .literalArithmetic operation _ target source literal =>
    .literalArithmetic operation target.text source.text literal.text
  | .xorInto _ target source => .xorInto target.text source.text
  | .convert kind target source => .convert kind.text target.text source.text
  | .staticGet _ target field => .staticGet target.text field.text
  | .staticPut _ source field => .staticPut source.text field.text
  | .newInstance target className => .newInstance target.text className.text
  | .invoke _ receiver registers callee =>
    .invoke ((receiver :: registers).map (·.text)) callee.text
  | .leave kind source => .exit (kind.map fun kind => "-" ++ kind.letters.text) (some source.text)
  | .leaveVoid => .exit (some "-void") none

/-- The callee of a call. -/
def callee? : Statement → Option Callee
  | .invoke _ _ _ callee => some callee
  | _ => none

end Statement

/-! ### Texts without blanks at their ends -/

namespace Text

theorem strip_eq_self {text : String}
    (hfirst : ∀ c, text.toList.head? = some c → isBlank c = false)
    (hlast : ∀ c, text.toList.getLast? = some c → isBlank c = false) : strip text = text := by
  have hfront : text.toList.dropWhile isBlank = text.toList := by
    refine List.dropWhile_eq_self_iff.mpr fun hlength => ?_
    rw [hfirst _ (List.head?_eq_getElem? .. ▸ List.getElem?_eq_getElem hlength)]
    exact Bool.false_ne_true
  have hback : text.toList.reverse.dropWhile isBlank = text.toList.reverse := by
    refine List.dropWhile_eq_self_iff.mpr fun hlength => ?_
    have hhead := List.getElem?_eq_getElem hlength
    rw [← List.head?_eq_getElem?, List.head?_reverse] at hhead
    rw [hlast _ hhead]
    exact Bool.false_ne_true
  rw [strip, trimBoth, hfront, hback, List.reverse_reverse, String.ofList_toList]

end Text

theorem Token.strip_text (token : Token) : Text.strip token.text = token.text :=
  Text.strip_eq_self (fun _ hhead => token.not_blank (List.mem_of_head? hhead))
    fun _ hlast => token.not_blank (List.mem_of_getLast? hlast)

theorem not_blank_of_lowerLetter {c : Char} (hlower : CharSet.lowerLetter.accepts c = true) :
    Text.isBlank c = false := by
  simp only [CharSet.lowerLetter, CharSet.accepts, Bool.and_eq_true, decide_eq_true_eq] at hlower
  have hlow : 97 ≤ c.toNat := hlower.1
  have hhigh : c.toNat ≤ 122 := hlower.2
  simp only [Text.isBlank, Bool.or_eq_false_iff, Bool.and_eq_false_iff, decide_eq_false_iff_not,
    beq_eq_false_iff_ne]
  omega

theorem Letters.strip_text (letters : Letters) : Text.strip letters.text = letters.text := by
  have hsolid : ∀ c ∈ letters.text.toList, Text.isBlank c = false :=
    fun c hmem => not_blank_of_lowerLetter (letters.lower hmem)
  exact Text.strip_eq_self (fun c hhead => hsolid c (List.mem_of_head? hhead))
    fun c hlast => hsolid c (List.mem_of_getLast? hlast)

theorem getLast?_joined (gaps : Nat → Gap) (index : Nat) (token : Token) (tokens : List Token) :
    ∃ last : Token, (joined gaps index (token :: tokens)).toList.getLast? =
      last.text.toList.getLast? := by
  induction tokens generalizing index token with
  | nil => exact ⟨token, rfl⟩
  | cons other tokens ih =>
      obtain ⟨last, hlast⟩ := ih (index + 1) other
      refine ⟨last, ?_⟩
      have hne : (joined gaps (index + 1) (other :: tokens)).toList ≠ [] := by
        intro hnil
        rw [hnil] at hlast
        exact last.toList_ne_nil (List.getLast?_eq_none_iff.mp hlast.symm)
      rw [toList_joined_cons, ← hlast, List.append_cons, ← List.append_assoc]
      exact List.getLast?_append_of_ne_nil _ hne

theorem strip_joined {gaps : Nat → Gap} {index : Nat} {token : Token} {tokens : List Token} :
    Text.strip (joined gaps index (token :: tokens)) = joined gaps index (token :: tokens) := by
  obtain ⟨last, hlast⟩ := getLast?_joined gaps index token tokens
  refine Text.strip_eq_self (fun c hhead => not_blank_of_head?_joined hhead) fun c hc => ?_
  rw [hlast] at hc
  exact last.not_blank (List.mem_of_getLast? hc)

/-- Blanks before an operand are stripped off. -/
theorem strip_gap_append {blanks : List Char} (token : Token)
    (hblanks : ∀ c ∈ blanks, Text.isBlank c = true) :
    Text.strip (String.ofList (blanks ++ token.text.toList)) = token.text := by
  have hfront : blanks.dropWhile Text.isBlank = [] := List.dropWhile_eq_nil_iff.mpr hblanks
  have hstrip := token.strip_text
  rw [Text.strip, Text.trimBoth] at hstrip ⊢
  rwa [String.toList_ofList, List.dropWhile_append_of_pos hblanks]

/-- Registers in braces are divided at the commas. -/
theorem registers_joined (gaps : Nat → Gap) (token : Token) (tokens : List Token) :
    Form.registers (joined gaps 0 (token :: tokens)) = (token :: tokens).map (·.text) := by
  have hpieces (blanks : List Char) (hblanks : ∀ c ∈ blanks, Text.isBlank c = true) (index : Nat) :
      (Text.splitAt ',' (blanks ++ (joined gaps index (token :: tokens)).toList)).map
        (fun piece => Text.strip (String.ofList piece)) = (token :: tokens).map (·.text) := by
    have hcomma : ',' ∉ blanks := fun hmem => absurd (hblanks ',' hmem) (by decide)
    induction tokens generalizing blanks index token with
    | nil =>
        have hnone : ',' ∉ blanks ++ token.text.toList := by
          simpa [hcomma] using token.not_comma
        rw [joined, Text.splitAt_of_not_mem hnone, List.map_singleton,
          strip_gap_append token hblanks]
        rfl
    | cons other tokens ih =>
        have hnone : ',' ∉ blanks ++ token.text.toList := by
          simpa [hcomma] using token.not_comma
        rw [toList_joined_cons, ← List.append_assoc, Text.splitAt_append hnone, List.map_cons,
          strip_gap_append token hblanks,
          ih other _ (fun c hmem => (gaps index).isBlank hmem) _ (gaps index).not_comma]
        rfl
  rw [Form.registers, Text.split, List.map_map]
  exact hpieces [] (fun _ hnone => absurd hnone List.not_mem_nil) 0

namespace Text

variable {part chars before behind : List Char}

theorem eq_append_of_cut (hcut : cut part chars = some (before, behind)) :
    chars = before ++ part ++ behind := by
  induction chars generalizing before with
  | nil => cases hcut
  | cons c rest ih =>
      rw [cut] at hcut
      split at hcut
      · rename_i hfront
        obtain ⟨behind, hbehind⟩ := List.isPrefixOf_iff_prefix.mp hfront
        rw [← hbehind, List.drop_left] at hcut
        cases hcut
        exact hbehind.symm
      · obtain ⟨⟨first, last⟩, hfound, hpair⟩ := Option.map_eq_some_iff.mp hcut
        cases hpair
        rw [ih hfound]
        rfl

theorem exists_cut (hne : part ≠ []) (hchars : chars = before ++ part ++ behind) :
    ∃ first last, cut part chars = some (first, last) := by
  induction chars generalizing before with
  | nil =>
      rw [eq_comm, List.append_eq_nil_iff, List.append_eq_nil_iff] at hchars
      exact absurd hchars.1.2 hne
  | cons c rest ih =>
      rw [cut]
      split
      · exact ⟨_, _, rfl⟩
      · rename_i hfront
        cases before with
        | nil => exact absurd (List.isPrefixOf_iff_prefix.mpr ⟨behind, hchars.symm⟩) hfront
        | cons d before =>
            obtain ⟨first, last, hfound⟩ := ih (List.cons.inj hchars).2
            exact ⟨c :: first, last, by rw [hfound]; rfl⟩

end Text

theorem Callee.parts (callee : Callee) :
    Instruction.calleeParts callee.text = .ok (callee.className, callee.method) := by
  have htext : callee.text.toList =
      callee.className.toList ++ ";->".toList ++ callee.method.toList := by
    rw [callee.text_eq, String.toList_append, String.toList_append]
  obtain ⟨descriptor, signature, hcut⟩ := Text.exists_cut (by decide) htext
  have hdescriptor := callee.only_arrow _ _ (Text.eq_append_of_cut hcut)
  have hsignature : signature = callee.method.toList := by
    have hsame := Text.eq_append_of_cut hcut
    rw [htext, hdescriptor] at hsame
    exact (List.append_cancel_left hsame).symm
  subst hdescriptor hsignature
  -- A second arrow would be another place to cut the text at.
  have honce : Text.cut ";->".toList callee.method.toList = none := by
    refine Option.eq_none_iff_forall_ne_some.mpr fun pair hsecond => ?_
    have hmethod := Text.eq_append_of_cut hsecond
    have hlater := callee.only_arrow (callee.className.toList ++ ";->".toList ++ pair.1) pair.2
      (by rw [htext, hmethod]; simp only [List.append_assoc])
    have hlength := congrArg List.length hlater
    simp at hlength
  have harrow : ";->".toList = [';', '-', '>'] := by decide
  rw [harrow] at hcut honce
  simp only [Instruction.calleeParts, hcut, honce, String.ofList_toList]

/-! ### Spaces -/

/-- A space stands only behind a comma or another blank. -/
def Spaced (chars : List Char) : Prop :=
  chars.IsChain fun c d => d = ' ' → c = ',' ∨ c = ' ' ∨ c = '\t'

instance (chars : List Char) : Decidable (Spaced chars) :=
  inferInstanceAs (Decidable (chars.IsChain _))

theorem spaced_of_forall {chars : List Char}
    (hchars : (∀ c ∈ chars, c ≠ ' ') ∨ ∀ c ∈ chars, c = ',' ∨ c = ' ' ∨ c = '\t') :
    Spaced chars := by
  refine (List.pairwise_of_forall_mem_list fun c hc d hd hspace => ?_).isChain
  rcases hchars with hsolid | hblank
  · exact absurd hspace (hsolid d hd)
  · exact hblank c hc

theorem Spaced.append {first second : List Char} (hfirst : Spaced first) (hsecond : Spaced second)
    (hhead : second.head? ≠ some ' ') : Spaced (first ++ second) := by
  refine List.IsChain.append hfirst hsecond fun c _ d hd hspace => ?_
  subst hspace
  exact absurd hd hhead

theorem Token.spaced (token : Token) : Spaced token.text.toList :=
  spaced_of_forall (.inl fun _ hmem hspace => absurd (token.not_blank (hspace ▸ hmem)) (by decide))

theorem Gap.spaced (gap : Gap) : Spaced (',' :: gap.text.toList) := by
  refine spaced_of_forall (.inr fun c hmem => ?_)
  rcases List.mem_cons.mp hmem with rfl | hmem
  · exact .inl rfl
  · exact .inr (gap.space_or_tab hmem)

theorem head?_joined_ne {gaps : Nat → Gap} {index : Nat} {token : Token} {tokens : List Token} :
    (joined gaps index (token :: tokens)).toList.head? ≠ some ' ' :=
  fun hspace => absurd (not_blank_of_head?_joined hspace) (by decide)

theorem spaced_joined (gaps : Nat → Gap) (index : Nat) (token : Token) (tokens : List Token) :
    Spaced (joined gaps index (token :: tokens)).toList := by
  induction tokens generalizing index token with
  | nil => exact token.spaced
  | cons other tokens ih =>
      rw [toList_joined_cons, ← List.cons_append]
      exact token.spaced.append ((gaps index).spaced.append (ih _ other) head?_joined_ne) nofun

/-- A word that ends in neither a comma nor a blank is followed by a space only where it ends the
mnemonic. -/
theorem not_infix_of_spaced {word mnemonic body : List Char} {last : Char}
    (hlast : word.getLast? = some last) (hsolid : ¬(last = ',' ∨ last = ' ' ∨ last = '\t'))
    (hmnemonic : ¬word <:+: mnemonic) (hspaced : Spaced (' ' :: body)) :
    ¬word ++ [' '] <:+: mnemonic ++ ' ' :: body := by
  rintro ⟨front, behind, hline⟩
  have hsplit : (front ++ word) ++ ' ' :: behind = mnemonic ++ ' ' :: body := by
    simpa using hline
  rcases List.append_eq_append_iff.mp hsplit with ⟨more, hmore, -⟩ | ⟨more, hmore, hbody⟩
  · exact hmnemonic ⟨front, more, hmore.symm⟩
  · cases hmiddle : more.getLast? with
    | none =>
        rw [List.getLast?_eq_none_iff.mp hmiddle, List.append_nil] at hmore
        exact hmnemonic ⟨front, [], by rw [List.append_nil, hmore]⟩
    | some c =>
        have hends := congrArg List.getLast? hmore
        rw [List.getLast?_append, List.getLast?_append, hlast, hmiddle] at hends
        cases hends
        rw [hbody] at hspaced
        exact hsolid ((List.isChain_append.mp hspaced).2.2 last hmiddle ' ' rfl rfl)

end Dalvik
