import Mathlib.Data.List.Forall2
import ParameterDrift.Raw.Json
import ParameterDrift.Raw.Json.Reading
/-! # JSON that is read back

What is written as JSON is read as the same value, in whatever style it is written
(`ParameterDrift.Json.read_render`), as long as the value has no dates and no numbers with a
fraction, and texts as keys. Both steps of the reading follow the value. The characters of a part
are taken to its tokens, whatever comes next; only words and numbers ask that they be ended. The
tokens of a part are taken to its value, whatever is on the stack.
-/

namespace ParameterDrift

/-! ### Digits -/

namespace Numeral

variable {base n : Nat}

/-- The digit of a value up to fifteen has the value. -/
theorem digitValue?_digitChar : ∀ digit < 16, digitValue? (Nat.digitChar digit) = some digit := by
  decide

/-- What holds of the first digits holds of every digit of a number. -/
theorem forall_mem_toDigits {holds : Char → Prop} (some? : 1 < base)
    (each : ∀ digit < base, holds (Nat.digitChar digit)) (n : Nat) :
    ∀ c ∈ Nat.toDigits base n, holds c := by
  induction n using Nat.strongRecOn with
  | ind n ih =>
    intro c member
    rw [Nat.toDigits_eq_if some?] at member
    split at member
    · next small =>
      rw [List.mem_singleton.mp member]
      exact each n small
    · next large =>
      rcases List.mem_append.mp member with before | last
      · exact ih (n / base) (Nat.div_lt_self (by omega) some?) c before
      · rw [List.mem_singleton.mp last]
        exact each _ (Nat.mod_lt n (by omega))

/-- The digits of a number denote it. -/
theorem foldlM_toDigits (some? : 1 < base) (few : base ≤ 16) (n : Nat) :
    (Nat.toDigits base n).foldlM (appendDigit? base) 0 = some n := by
  have last {before digit : Nat} (small : digit < base) :
      appendDigit? base before (Nat.digitChar digit) = some (before * base + digit) := by
    simp only [appendDigit?, digitValue?_digitChar digit (by omega), bind, Option.bind, small,
      ↓reduceIte]
  induction n using Nat.strongRecOn with
  | ind n ih =>
    rw [Nat.toDigits_eq_if some?]
    split
    · next small =>
      rw [List.foldlM_cons, last small, Nat.zero_mul, Nat.zero_add]
      rfl
    · next large =>
      rw [List.foldlM_append, ih (n / base) (Nat.div_lt_self (by omega) some?)]
      change (do appendDigit? base (n / base) (Nat.digitChar (n % base)) >>= pure) = some n
      rw [last (Nat.mod_lt n (by omega)), Nat.div_add_mod']
      rfl

/-- The digits of a number are read as the number. -/
theorem natural?_toDigits (some? : 1 < base) (few : base ≤ 16) :
    natural? base (Nat.toDigits base n) = some n := by
  rw [natural?, if_neg, foldlM_toDigits some? few]
  rw [List.isEmpty_iff]
  exact Nat.toDigits_ne_nil

/-- So do its hexadecimal digits behind zeros. -/
theorem natural?_hexDigits (width : Nat) : natural? 16 (Text.hexDigits width n) = some n := by
  have zeros (count : Nat) :
      (List.replicate count '0').foldlM (appendDigit? 16) 0 = some 0 := by
    induction count with
    | zero => rfl
    | succ count ih => exact ih
  rw [natural?, if_neg]
  · rw [Text.hexDigits, List.foldlM_append, zeros]
    exact foldlM_toDigits (by decide) (by decide) n
  · rw [List.isEmpty_iff, Text.hexDigits, List.append_eq_nil_iff]
    exact fun empty => Nat.toDigits_ne_nil empty.2

/-- A number that has no more digits than the width has as many. -/
theorem length_hexDigits {width : Nat} (some? : 0 < width) (fits : n < Nat.pow 16 width) :
    (Text.hexDigits width n).length = width := by
  have short := (Nat.length_toDigits_le_iff (by decide) some?).mpr fits
  rw [Text.hexDigits, List.length_append, List.length_replicate]
  omega

end Numeral

namespace Json

variable {text : List Char} {tokens : List Token}

/-! ### Reading a part -/

/-- What comes next ends a word. -/
def Ends (rest : List Char) : Prop :=
  ∀ c later, rest = c :: later → endsWord c = true

/-- The characters of a part are read as tokens, whatever comes next. -/
def Reads (text : List Char) (tokens : List Token) : Prop :=
  ∀ rest, tokens? .between (text ++ rest) = (tokens? .between rest).map (tokens ++ ·)

/-- They are read as tokens when they are ended. -/
def ReadsEnded (text : List Char) (tokens : List Token) : Prop :=
  ∀ rest, Ends rest → tokens? .between (text ++ rest) = (tokens? .between rest).map (tokens ++ ·)

/-! ### Texts in quotes -/

/-- The units of a character become the character again. -/
theorem decode?_units (c : Char) (later : List Nat) :
    decode? (units c ++ later) = (decode? later).map (c :: ·) := by
  have valid : c.toNat < 0xD800 ∨ 0xDFFF < c.toNat ∧ c.toNat < 0x110000 := c.valid
  rw [units]
  split
  · next small =>
    have noFirst : isFirstHalf c.toNat = false := by
      simp only [isFirstHalf, Bool.and_eq_false_iff, decide_eq_false_iff_not]
      omega
    have noSecond : isSecondHalf c.toNat = false := by
      simp only [isSecondHalf, Bool.and_eq_false_iff, decide_eq_false_iff_not]
      omega
    rw [List.singleton_append, decode?.eq_def]
    simp only [noFirst, noSecond, Bool.false_eq_true, ↓reduceIte, Char.ofNat_toNat]
  · next large =>
    have first : isFirstHalf (0xD800 + (c.toNat - 0x10000) / 0x400) = true := by
      simp only [isFirstHalf, Bool.and_eq_true, decide_eq_true_eq]
      omega
    have second : isSecondHalf (0xDC00 + (c.toNat - 0x10000) % 0x400) = true := by
      simp only [isSecondHalf, Bool.and_eq_true, decide_eq_true_eq]
      omega
    have together : 0x10000 + (0xD800 + (c.toNat - 0x10000) / 0x400 - 0xD800) * 0x400 +
        (0xDC00 + (c.toNat - 0x10000) % 0x400 - 0xDC00) = c.toNat := by
      omega
    simp only [List.cons_append, List.nil_append, decode?, first, second, ↓reduceIte, together,
      Char.ofNat_toNat]

/-- The units of a text become the text again. -/
theorem decode?_flatMap_units (text : List Char) : decode? (text.flatMap units) = some text := by
  induction text with
  | nil => rfl
  | cons c rest ih => rw [List.flatMap_cons, decode?_units, ih]; rfl

/-- The escape of a unit is read as the unit. -/
theorem tokens?_unitEscape {unit : Nat} (small : unit < 0x10000) (units : List Nat)
    (rest : List Char) :
    tokens? (.text units) (unitEscape unit ++ rest) = tokens? (.text (unit :: units)) rest := by
  have number : Numeral.natural? 16 (Text.hexDigits 4 unit) = some unit :=
    Numeral.natural?_hexDigits 4
  have length : (Text.hexDigits 4 unit).length = 4 := Numeral.length_hexDigits (by decide) small
  rw [unitEscape]
  generalize Text.hexDigits 4 unit = digits at number length
  match digits, length with
  | [first, second, third, fourth], _ =>
    simp [tokens?, number]

/-- A character that stands for itself is read as its units. -/
theorem tokens?_plain {c : Char} (noQuote : c ≠ '"') (noBackslash : c ≠ '\\') (printed : ' ' ≤ c)
    (read : List Nat) (rest : List Char) :
    tokens? (.text read) (c :: rest) = tokens? (.text ((units c).reverse ++ read)) rest := by
  rw [tokens?, if_neg noQuote, if_neg noBackslash, if_neg (Char.not_lt.mpr printed)]

/-- However a character is written, it is read as its units. -/
theorem tokens?_escape (c : Char) (read : List Nat) (rest : List Char) :
    tokens? (.text read) (escape c ++ rest) = tokens? (.text ((units c).reverse ++ read)) rest := by
  have valid : c.toNat < 0xD800 ∨ 0xDFFF < c.toNat ∧ c.toNat < 0x110000 := c.valid
  unfold escape
  split
  · next marked =>
    rw [Bool.or_eq_true, decide_eq_true_eq, decide_eq_true_eq] at marked
    rcases marked with rfl | rfl
    · rfl
    · rfl
  · next unmarked =>
    rw [Bool.or_eq_true, decide_eq_true_eq, decide_eq_true_eq, not_or] at unmarked
    split_ifs with lineFeed carriageReturn tab formFeed backspace printed small
    · subst lineFeed; rfl
    · subst carriageReturn; rfl
    · subst tab; rfl
    · subst formFeed; rfl
    · subst backspace; rfl
    · rw [Bool.and_eq_true, decide_eq_true_eq, decide_eq_true_eq] at printed
      exact tokens?_plain unmarked.1 unmarked.2 printed.1 read rest
    · rw [tokens?_unitEscape small, units, if_pos small]
      rfl
    · rw [List.append_assoc, tokens?_unitEscape (by omega), tokens?_unitEscape (by omega), units,
        if_neg small]
      rfl

/-- At the closing quote a text is read, and then what comes next. -/
theorem tokens?_quote (read : List Nat) (rest : List Char) :
    tokens? (.text read) ('"' :: rest) = (decode? read.reverse).bind fun text =>
      (tokens? .between rest).map (.scalar (.text (String.ofList text)) :: ·) := by
  simp only [tokens?, ↓reduceIte]
  cases decode? read.reverse with
  | none => rfl
  | some text => rfl

/-- A text in quotes is read as the text. -/
theorem reads_string (s : String) : Reads (string s).toList [.scalar (.text s)] := by
  have inside (text : List Char) (read : List Nat) (after : List Char) :
      tokens? (.text read) (text.flatMap escape ++ after) =
        tokens? (.text ((text.flatMap units).reverse ++ read)) after := by
    induction text generalizing read with
    | nil => rfl
    | cons c later ih =>
      rw [List.flatMap_cons, List.append_assoc, tokens?_escape, ih, List.flatMap_cons,
        List.reverse_append, List.append_assoc]
  intro rest
  rw [string, String.toList_ofList, List.cons_append, List.cons_append, List.append_assoc]
  change tokens? (.text []) _ = _
  rw [inside, List.append_nil, List.singleton_append, tokens?_quote, List.reverse_reverse,
    decode?_flatMap_units, Option.bind_some, String.ofList_toList]
  rfl

/-! ### Words and numbers -/

/-- Where a word ends, it is read, and then what comes next. -/
theorem tokens?_word_of_ends {rest : List Char} (ends : Ends rest) (read : List Char) :
    tokens? (.word read) rest =
      (word? read.reverse).bind fun s => (tokens? .between rest).map (.scalar s :: ·) := by
  cases rest with
  | nil =>
    simp only [tokens?]
    cases word? read.reverse with
    | none => rfl
    | some s => rfl
  | cons c after =>
    simp only [tokens?, ends c after rfl, ↓reduceIte]
    cases word? read.reverse with
    | none => rfl
    | some s => rfl

/-- A word is read where it ends. -/
theorem readsEnded_word {letters : List Char} {s : Scalar}
    (whole : letters.isEmpty = false ∧ letters.any endsWord = false)
    (word : word? letters = some s) : ReadsEnded letters [.scalar s] := by
  have onwards (more : List Char) (unfinished : more.any endsWord = false) (read rest : List Char) :
      tokens? (.word read) (more ++ rest) = tokens? (.word (more.reverse ++ read)) rest := by
    induction more generalizing read with
    | nil => rfl
    | cons c later ih =>
      rw [List.any_cons, Bool.or_eq_false_iff] at unfinished
      rw [List.cons_append, tokens?, unfinished.1, List.reverse_cons, List.append_assoc]
      exact ih unfinished.2 (c :: read)
  intro rest ends
  cases letters with
  | nil => cases whole.1
  | cons first later =>
    obtain ⟨-, inside⟩ := whole
    rw [List.any_cons, Bool.or_eq_false_iff] at inside
    have starts := inside.1
    simp only [endsWord, Bool.or_eq_false_iff, decide_eq_false_iff_not, Option.isSome_eq_false_iff,
      Option.isNone_iff_eq_none] at starts
    have entered : tokens? .between (first :: (later ++ rest)) =
        tokens? (.word [first]) (later ++ rest) := by
      simp [tokens?, enter, starts]
    rw [List.cons_append, entered, onwards later inside.2, tokens?_word_of_ends ends,
      List.reverse_append, List.reverse_reverse, List.reverse_singleton, List.singleton_append, word]
    rfl

/-- The decimal digits of a number are no ends of words and no marks of other numbers. -/
theorem plain_of_mem_toDigits (n : Nat) : ∀ c ∈ Nat.toDigits 10 n,
    endsWord c = false ∧ ['.', 'e', 'E'].contains c = false ∧ c ≠ '-' ∧ c ≠ 'n' ∧ c ≠ 't' ∧
      c ≠ 'f' :=
  Numeral.forall_mem_toDigits (by decide) (by decide) n

/-- No digit of a number ends it. -/
theorem any_endsWord_toDigits (m : Nat) : (Nat.toDigits 10 m).any endsWord = false := by
  rw [List.any_eq_false]
  intro c member
  rw [(plain_of_mem_toDigits m c member).1]
  exact Bool.false_ne_true

/-- The decimal digits of an integer are those of a natural number, behind a minus sign if it is
negative. -/
theorem toList_toString (n : Int) :
    (∃ m : Nat, n = m ∧ (toString n).toList = Nat.toDigits 10 m) ∨
      ∃ m : Nat, n = -m ∧ (toString n).toList = '-' :: Nat.toDigits 10 m := by
  change (∃ m : Nat, n = m ∧ n.repr.toList = Nat.toDigits 10 m) ∨
    ∃ m : Nat, n = -m ∧ n.repr.toList = '-' :: Nat.toDigits 10 m
  rw [Int.repr_eq_if]
  split
  · next positive =>
    refine .inl ⟨n.toNat, (Int.toNat_of_nonneg positive).symm, ?_⟩
    rw [Nat.repr_eq_ofList_toDigits, String.toList_ofList]
  · next negative =>
    refine .inr ⟨(-n).toNat, by omega, ?_⟩
    rw [Nat.repr_eq_ofList_toDigits, String.toList_append, String.toList_ofList,
      String.toList_ofList]
    rfl

/-- Digits are read as their number. -/
theorem number?_toDigits (m : Nat) : number? (Nat.toDigits 10 m) = some (.int m) := by
  have whole : ((Nat.toDigits 10 m).any fun c => ['.', 'e', 'E'].contains c) = false := by
    rw [List.any_eq_false]
    intro c member
    rw [(plain_of_mem_toDigits _ c member).2.1]
    exact Bool.false_ne_true
  have number : Numeral.natural? 10 (Nat.toDigits 10 m) = some m :=
    Numeral.natural?_toDigits (by decide) (by decide)
  have plain := plain_of_mem_toDigits m
  generalize Nat.toDigits 10 m = digits at whole number plain
  have noSign (rest : List Char) : digits ≠ '-' :: rest := by
    rintro rfl
    exact (plain '-' List.mem_cons_self).2.2.1 rfl
  unfold number?
  rw [if_neg (by rw [whole]; exact Bool.false_ne_true)]
  split
  · next rest => exact absurd rfl (noSign rest)
  · rw [number]
    rfl

/-- Behind a minus sign they are read as its opposite. -/
theorem number?_minus_toDigits (m : Nat) :
    number? ('-' :: Nat.toDigits 10 m) = some (.int (-m)) := by
  have whole : (('-' :: Nat.toDigits 10 m).any fun c => ['.', 'e', 'E'].contains c) = false := by
    rw [List.any_cons, Bool.or_eq_false_iff, List.any_eq_false]
    refine ⟨rfl, fun c member => ?_⟩
    rw [(plain_of_mem_toDigits _ c member).2.1]
    exact Bool.false_ne_true
  rw [number?, whole]
  change (Numeral.natural? 10 (Nat.toDigits 10 m)).map (fun n => Scalar.int (-n)) = _
  rw [Numeral.natural?_toDigits (by decide) (by decide)]
  rfl

/-- What begins with neither letter of a word is read as a number. -/
theorem word?_eq_number? {c : Char} (noLetter : c ≠ 'n' ∧ c ≠ 't' ∧ c ≠ 'f') (letters : List Char) :
    word? (c :: letters) = number? (c :: letters) := by
  rw [word?, if_neg, if_neg, if_neg]
  · exact fun same => noLetter.2.2 (List.cons.inj same).1
  · exact fun same => noLetter.2.1 (List.cons.inj same).1
  · exact fun same => noLetter.1 (List.cons.inj same).1

/-- An integer is read where it ends. -/
theorem readsEnded_int (n : Int) : ReadsEnded (toString n).toList [.scalar (.int n)] := by
  rcases toList_toString n with ⟨m, rfl, written⟩ | ⟨m, rfl, written⟩
  · rw [written]
    have number := number?_toDigits m
    have inside := any_endsWord_toDigits m
    have plain := plain_of_mem_toDigits m
    cases digits : Nat.toDigits 10 m with
    | nil => exact absurd digits Nat.toDigits_ne_nil
    | cons c rest =>
      rw [digits] at number inside plain
      refine readsEnded_word ⟨rfl, inside⟩ ?_
      rw [word?_eq_number? (plain c List.mem_cons_self).2.2.2, number]
  · rw [written]
    refine readsEnded_word ⟨rfl, any_endsWord_toDigits m⟩ ?_
    rw [word?_eq_number? (by decide), number?_minus_toDigits]

/-! ### Parts and wholes -/

/-- What is read whatever comes next is read where it is ended. -/
theorem Reads.ended (reads : Reads text tokens) : ReadsEnded text tokens :=
  fun rest _ => reads rest

/-- Tokens put in front one after the other are put in front together. -/
theorem map_append_map (first tokens : List Token) (found : Option (List Token)) :
    (found.map (tokens ++ ·)).map (first ++ ·) = found.map (first ++ tokens ++ ·) := by
  rw [Option.map_map]
  congr 1
  funext last
  rw [Function.comp_apply, List.append_assoc]

/-- Parts are read one after the other. -/
theorem Reads.append {before : List Char} {first : List Token} (reads : Reads before first)
    (later : Reads text tokens) : Reads (before ++ text) (first ++ tokens) := by
  intro rest
  rw [List.append_assoc, reads, later, map_append_map]

/-- A part that must be ended is ended by a part that begins so. -/
theorem ReadsEnded.append {before : List Char} {first : List Token}
    (reads : ReadsEnded before first) {c : Char} (starts : endsWord c = true)
    (later : Reads (c :: text) tokens) : Reads (before ++ c :: text) (first ++ tokens) := by
  intro rest
  have ends : Ends (c :: text ++ rest) := by
    rintro _ _ ⟨⟩
    exact starts
  rw [List.append_assoc, reads _ ends, later, map_append_map]

theorem reads_nil : Reads [] [] := by
  intro rest
  cases h : tokens? .between rest with
  | none => simp [h]
  | some tokens => simp [h]

/-- Blanks are read as nothing. -/
theorem reads_cons_of_isSpace {c : Char} (blank : isSpace c = true) (reads : Reads text tokens) :
    Reads (c :: text) tokens := by
  intro rest
  rw [← reads rest, List.cons_append]
  simp [tokens?, enter, blank]

/-- A mark is read as its token. -/
theorem reads_cons_of_mark? {c : Char} {token : Token} (notBlank : isSpace c = false)
    (mark : mark? c = some token) (reads : Reads text tokens) :
    Reads (c :: text) (token :: tokens) := by
  intro rest
  rw [List.cons_append]
  simp [tokens?, enter, notBlank, mark, reads rest, Function.comp_def]

theorem endsWord_of_mark? {c : Char} {token : Token} (mark : mark? c = some token) :
    endsWord c = true := by
  simp [endsWord, mark]

/-- A line break is empty or begins with the end of a line. -/
theorem toList_lineBreak (style : Style) (depth : Nat) :
    (style.lineBreak depth).toList = [] ∨
      ∃ blanks, (style.lineBreak depth).toList = '\n' :: blanks := by
  rw [Style.lineBreak]
  cases style.indentation with
  | none => exact .inl rfl
  | some width => exact .inr ⟨_, String.toList_append⟩

/-- A line break and its indentation are read as nothing. -/
theorem reads_lineBreak_append (style : Style) (depth : Nat) (reads : Reads text tokens) :
    Reads ((style.lineBreak depth).toList ++ text) tokens := by
  have blanks (count : Nat) : Reads (List.replicate count ' ' ++ text) tokens := by
    induction count with
    | zero => exact reads
    | succ count ih =>
      rw [List.replicate_succ, List.cons_append]
      exact reads_cons_of_isSpace rfl ih
  rw [Style.lineBreak]
  cases style.indentation with
  | none => exact reads
  | some width =>
    rw [String.toList_append, String.toList_ofList, String.toList_ofList]
    exact reads_cons_of_isSpace rfl (blanks _)

/-- Parts with commas between them are read one by one, when what follows ends the last. -/
theorem reads_intercalate {blanks tail : List Char} {last : List Token} {c : Char}
    {parts : List (List Char)} {partTokens : List (List Token)} (blank : Reads blanks [])
    (each : List.Forall₂ ReadsEnded parts partTokens) (ends : endsWord c = true)
    (closing : Reads (c :: tail) last) :
    Reads ((',' :: blanks).intercalate parts ++ c :: tail)
      ([Token.comma].intercalate partTokens ++ last) := by
  induction each with
  | nil => exact closing
  | @cons part own others otherTokens first later ih =>
    cases later with
    | nil =>
      rw [List.intercalate_singleton, List.intercalate_singleton]
      exact first.append ends closing
    | cons second more =>
      rw [List.intercalate_cons_cons, List.intercalate_cons_cons, List.append_assoc,
        List.append_assoc, List.append_assoc, List.append_assoc, List.cons_append,
        List.singleton_append]
      exact first.append rfl (reads_cons_of_mark? rfl rfl (blank.append ih))

/-- What comes before a closing bracket ends what stands in front of it. -/
theorem exists_closing (style : Style) (depth : Nat) {closing : Char} {last : Token}
    (closes : isSpace closing = false ∧ mark? closing = some last) :
    ∃ c tail, (style.lineBreak depth).toList ++ [closing] = c :: tail ∧ endsWord c = true ∧
      Reads (c :: tail) [last] := by
  have atEnd : Reads [closing] [last] := reads_cons_of_mark? closes.1 closes.2 reads_nil
  have reads := reads_lineBreak_append style depth atEnd
  rcases toList_lineBreak style depth with empty | ⟨blanks, broken⟩
  · rw [empty]
    exact ⟨closing, [], rfl, endsWord_of_mark? closes.2, atEnd⟩
  · rw [broken] at reads ⊢
    exact ⟨'\n', _, rfl, rfl, reads⟩

/-- The separator of parts is a comma and blanks. -/
def Style.separator (style : Style) (depth : Nat) : String :=
  match style.indentation with
  | none => ", "
  | some _ => "," ++ style.lineBreak (depth + 1)

/-- The separator is read as a comma only. -/
theorem Style.exists_blanks (style : Style) (depth : Nat) :
    ∃ blanks, (style.separator depth).toList = ',' :: blanks ∧ Reads blanks [] := by
  have broken := reads_lineBreak_append style (depth + 1) reads_nil
  rw [List.append_nil] at broken
  unfold Style.separator
  split
  · exact ⟨[' '], rfl, reads_cons_of_isSpace rfl reads_nil⟩
  · exact ⟨_, String.toList_append, broken⟩

/-- What is enclosed is read between the tokens of its brackets. -/
theorem reads_enclose (style : Style) (depth : Nat) {left right : String} {opening closing : Char}
    {first last : Token} {parts : List String} {partTokens : List (List Token)}
    (isLeft : left.toList = [opening]) (isRight : right.toList = [closing])
    (opens : isSpace opening = false ∧ mark? opening = some first)
    (closes : isSpace closing = false ∧ mark? closing = some last)
    (each : List.Forall₂ (fun part tokens => ReadsEnded part.toList tokens) parts partTokens) :
    Reads (style.enclose depth left right parts).toList
      (first :: [Token.comma].intercalate partTokens ++ [last]) := by
  obtain ⟨blanks, separated, blank⟩ := style.exists_blanks depth
  obtain ⟨c, tail, closed, ends, closing⟩ := exists_closing style depth closes
  have inside := reads_lineBreak_append style (depth + 1)
    (reads_intercalate blank (List.forall₂_map_left_iff.mpr each) ends closing)
  cases each with
  | nil =>
    change Reads (left ++ right).toList _
    rw [String.toList_append, isLeft, isRight]
    exact reads_cons_of_mark? opens.1 opens.2 (reads_cons_of_mark? closes.1 closes.2 reads_nil)
  | @cons part own others otherTokens head later =>
    have enclosed : style.enclose depth left right (part :: others) =
        left ++ style.lineBreak (depth + 1) ++
          (style.separator depth).intercalate (part :: others) ++
          style.lineBreak depth ++ right := rfl
    rw [enclosed, String.toList_append, String.toList_append, String.toList_append,
      String.toList_append, String.toList_intercalate, isLeft, isRight, separated, List.append_assoc,
      List.append_assoc, List.append_assoc, closed]
    exact reads_cons_of_mark? opens.1 opens.2 inside

/-! ### Values -/

/-- Values of which the written form keeps everything: they hold no dates and no numbers with a
fraction, and their keys are texts. -/
inductive IsKept : Raw → Prop
  | null : IsKept .null
  | bool (b : Bool) : IsKept (.bool b)
  | int (n : Int) : IsKept (.int n)
  | text (s : String) : IsKept (.text s)
  | list {items : List Raw} : (∀ item ∈ items, IsKept item) → IsKept (.list items)
  | mapping {entries : List (Scalar × Raw)} :
    (∀ entry ∈ entries, ∃ name, entry.1 = .text name) → (∀ entry ∈ entries, IsKept entry.2) →
    IsKept (.mapping entries)

mutual

/-- The tokens of a value. -/
def tokensOf : Raw → List Token
  | .scalar s => [.scalar s]
  | .list items => .openList :: [Token.comma].intercalate (itemTokens items) ++ [.closeList]
  | .mapping entries =>
    .openMapping :: [Token.comma].intercalate (entryTokens entries) ++ [.closeMapping]

/-- The tokens of the items of a list. -/
def itemTokens : List Raw → List (List Token)
  | [] => []
  | item :: rest => tokensOf item :: itemTokens rest

/-- The tokens of the entries of a mapping. -/
def entryTokens : List (Scalar × Raw) → List (List Token)
  | [] => []
  | (name, value) :: rest => (.scalar name :: .colon :: tokensOf value) :: entryTokens rest

end

variable {value : Raw} {style : Style} {depth : Nat}

/-- The items of a list are read as their tokens when each of them is. -/
theorem forall₂_itemsAt {items : List Raw}
    (each : ∀ item ∈ items, ReadsEnded (valueAt style depth item).toList (tokensOf item)) :
    List.Forall₂ (fun part tokens => ReadsEnded part.toList tokens) (itemsAt style depth items)
      (itemTokens items) := by
  induction items with
  | nil => exact .nil
  | cons item rest ih =>
    rw [List.forall_mem_cons] at each
    exact .cons each.1 (ih each.2)

/-- So are the entries of a mapping, when their names are texts. -/
theorem forall₂_entriesAt {entries : List (Scalar × Raw)}
    (named : ∀ entry ∈ entries, ∃ name, entry.1 = .text name)
    (each : ∀ entry ∈ entries,
      ReadsEnded (valueAt style depth entry.2).toList (tokensOf entry.2)) :
    List.Forall₂ (fun part tokens => ReadsEnded part.toList tokens) (entriesAt style depth entries)
      (entryTokens entries) := by
  induction entries with
  | nil => exact .nil
  | cons entry rest ih =>
    rw [List.forall_mem_cons] at named each
    refine .cons ?_ (ih named.2 each.2)
    obtain ⟨name, value⟩ := entry
    obtain ⟨⟨text, rfl⟩, -⟩ := named
    have colon : Reads [':', ' '] [.colon] :=
      reads_cons_of_mark? rfl rfl (reads_cons_of_isSpace rfl reads_nil)
    have front : Reads ((string text).toList ++ [':', ' ']) [.scalar (.text text), .colon] :=
      (reads_string text).append colon
    intro rest ends
    have written : (key (.text text) ++ ": " ++ valueAt style depth value).toList =
        (string text).toList ++ [':', ' '] ++ (valueAt style depth value).toList := by
      rw [String.toList_append, String.toList_append]
      rfl
    rw [written, List.append_assoc, front, each.1 rest ends, Option.map_map]
    rfl

/-- A value that is kept is read as its tokens where it is ended. -/
theorem readsEnded_valueAt (style : Style) (kept : IsKept value) (depth : Nat) :
    ReadsEnded (valueAt style depth value).toList (tokensOf value) := by
  induction kept generalizing depth with
  | null =>
    change ReadsEnded "null".toList _
    exact readsEnded_word ⟨rfl, rfl⟩ rfl
  | bool b =>
    cases b with
    | true =>
      change ReadsEnded "true".toList _
      exact readsEnded_word ⟨rfl, rfl⟩ rfl
    | false =>
      change ReadsEnded "false".toList _
      exact readsEnded_word ⟨rfl, rfl⟩ rfl
  | int n => exact readsEnded_int n
  | text s => exact (reads_string s).ended
  | list _ ih =>
    have each := forall₂_itemsAt fun item member => ih item member (depth + 1)
    exact (reads_enclose style depth rfl rfl ⟨rfl, rfl⟩ ⟨rfl, rfl⟩ each).ended
  | mapping named _ ih =>
    have each := forall₂_entriesAt named fun entry member => ih entry member (depth + 1)
    exact (reads_enclose style depth rfl rfl ⟨rfl, rfl⟩ ⟨rfl, rfl⟩ each).ended

/-! ### From tokens to values -/

variable {stack : List Frame} {rest : List Token}

/-- A list whose first token does not close it is read item by item. -/
theorem valueOf?_openList (open? : ∀ later, rest ≠ .closeList :: later) :
    valueOf? stack (.openList :: rest) = valueOf? (.list [] :: stack) rest := by
  cases rest with
  | nil => rfl
  | cons token later =>
    cases token with
    | closeList => exact absurd rfl (open? later)
    | _ => rfl

/-- The tokens of a value do not begin with the end of a list. -/
theorem tokensOf_append_ne (value : Raw) (rest later : List Token) :
    tokensOf value ++ rest ≠ .closeList :: later := by
  cases value with
  | scalar s => simp [tokensOf]
  | list items => simp [tokensOf]
  | mapping entries => simp [tokensOf]

/-- The tokens of a value are taken to the value, whatever is on the stack. -/
def Yields (value : Raw) : Prop :=
  ∀ stack rest, valueOf? stack (tokensOf value ++ rest) = valueAfter? value stack rest

/-- The items that follow one are put behind it one by one. -/
theorem valueAfter?_items {item : Raw} {others : List Raw} (each : ∀ other ∈ others, Yields other)
    (done : List Raw) (stack : List Frame) (rest : List Token) :
    valueAfter? item (.list done :: stack)
        (others.flatMap (.comma :: tokensOf ·) ++ .closeList :: rest) =
      valueAfter? (.list (done.reverse ++ item :: others)) stack rest := by
  induction others generalizing item done with
  | nil =>
    rw [List.flatMap_nil, List.nil_append, valueAfter?, List.reverse_cons]
  | cons next later ih =>
    rw [List.forall_mem_cons] at each
    rw [List.flatMap_cons, List.append_assoc, List.cons_append, valueAfter?, each.1, ih each.2,
      List.reverse_cons, List.append_assoc, List.singleton_append]

/-- So are the entries that follow one. -/
theorem valueAfter?_entries {name : String} {value : Raw} {others : List (Scalar × Raw)}
    (named : ∀ entry ∈ others, ∃ name, entry.1 = .text name)
    (each : ∀ entry ∈ others, Yields entry.2) (done : List (Scalar × Raw)) (stack : List Frame)
    (rest : List Token) :
    valueAfter? value (.mapping done name :: stack)
        ((others.flatMap fun entry => .comma :: .scalar entry.1 :: .colon :: tokensOf entry.2) ++
          .closeMapping :: rest) =
      valueAfter? (.mapping (done.reverse ++ (.text name, value) :: others)) stack rest := by
  induction others generalizing name value done with
  | nil =>
    rw [List.flatMap_nil, List.nil_append, valueAfter?, List.reverse_cons]
  | cons next later ih =>
    rw [List.forall_mem_cons] at named each
    obtain ⟨key, item⟩ := next
    obtain ⟨⟨other, rfl⟩, laterNamed⟩ := named
    rw [List.flatMap_cons, List.append_assoc, List.cons_append, List.cons_append, List.cons_append,
      valueAfter?, each.1, ih laterNamed each.2, List.reverse_cons, List.append_assoc,
      List.singleton_append]

/-- Parts with commas between them are the first and then a comma before each other. -/
theorem intercalate_cons (first : List Token) (others : List (List Token)) :
    [Token.comma].intercalate (first :: others) = first ++ others.flatMap (Token.comma :: ·) := by
  induction others generalizing first with
  | nil => rw [List.intercalate_singleton, List.flatMap_nil, List.append_nil]
  | cons next later ih =>
    rw [List.intercalate_cons_cons, ih, List.flatMap_cons, List.append_assoc, List.singleton_append,
      List.cons_append]

/-- The tokens of the items are those of each. -/
theorem itemTokens_eq_map (items : List Raw) : itemTokens items = items.map tokensOf := by
  induction items with
  | nil => rfl
  | cons item rest ih => rw [itemTokens, ih, List.map_cons]

/-- The tokens of an entry are its name, a colon and those of its value. -/
theorem entryTokens_eq_map (entries : List (Scalar × Raw)) : entryTokens entries =
    entries.map fun entry => .scalar entry.1 :: .colon :: tokensOf entry.2 := by
  induction entries with
  | nil => rfl
  | cons entry rest ih => rw [entryTokens, ih, List.map_cons]

/-- The tokens of a value that is kept are taken to the value. -/
theorem yields_of_isKept (kept : IsKept value) : Yields value := by
  induction kept with
  | null => exact fun _ _ => rfl
  | bool b => exact fun _ _ => rfl
  | int n => exact fun _ _ => rfl
  | text s => exact fun _ _ => rfl
  | @list items _ ih =>
    intro stack rest
    cases items with
    | nil => rfl
    | cons item others =>
      rw [List.forall_mem_cons] at ih
      have tokens : tokensOf (.list (item :: others)) ++ rest = .openList :: (tokensOf item ++
          (others.flatMap (.comma :: tokensOf ·) ++ .closeList :: rest)) := by
        rw [tokensOf, itemTokens, itemTokens_eq_map, intercalate_cons, List.flatMap_map]
        simp only [List.cons_append, List.append_assoc, List.nil_append]
      rw [tokens, valueOf?_openList (tokensOf_append_ne item _), ih.1, valueAfter?_items ih.2]
      rfl
  | @mapping entries named _ ih =>
    intro stack rest
    cases entries with
    | nil => rfl
    | cons entry others =>
      rw [List.forall_mem_cons] at named ih
      obtain ⟨key, item⟩ := entry
      obtain ⟨⟨name, rfl⟩, othersNamed⟩ := named
      have tokens : tokensOf (.mapping ((.text name, item) :: others)) ++ rest =
          .openMapping :: .scalar (.text name) :: .colon :: (tokensOf item ++
            ((others.flatMap fun entry => .comma :: .scalar entry.1 :: .colon :: tokensOf entry.2) ++
              .closeMapping :: rest)) := by
        rw [tokensOf, entryTokens, entryTokens_eq_map, intercalate_cons, List.flatMap_map]
        simp only [List.cons_append, List.append_assoc, List.nil_append]
      rw [tokens, valueOf?, ih.1, valueAfter?_entries othersNamed ih.2]
      rfl

/-- **What is written is read back.** The JSON text of a value that is kept, with the end of its
line, is read as the value. -/
theorem read_render (style : Style) (kept : IsKept value) :
    read (render style value ++ "\n") = some value := by
  have ends : Ends ['\n'] := by
    rintro _ _ ⟨⟩
    rfl
  have lexed : tokens? .between (render style value ++ "\n").toList = some (tokensOf value) := by
    rw [String.toList_append, render]
    exact (readsEnded_valueAt style kept 0 ['\n'] ends).trans (by
      change some (tokensOf value ++ []) = _
      rw [List.append_nil])
  have valued := yields_of_isKept kept [] []
  rw [List.append_nil] at valued
  rw [read, lexed]
  exact valued

end Json

end ParameterDrift
