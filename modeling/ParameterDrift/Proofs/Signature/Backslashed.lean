import ParameterDrift.Proofs.Signature.Rereading
import ParameterDrift.Proofs.Signature.Spelling
/-! # Names with a backslash before every mark

A name can be written so that none of its characters is taken for part of an escape: with a
backslash before every character that is no letter, digit or underscore. No lexeme of such a text is
a code point and none is taken up again, so it is read back character by character, with a quote in
front as without. Only a line feed keeps its backslash, hence a name is read back exactly when it
holds none (`ParameterDrift.Identifier.reads_back_backslashed_iff`).
-/

namespace ParameterDrift.Identifier

/-- Whether a character needs no backslash: an ASCII letter or digit, or an underscore. -/
def isWordCharacter (c : Char) : Bool :=
  c.isAlphanum || c = '_'

/-- A name with a backslash before every character that is not of a word. -/
def backslashed (name : List Char) : List Char :=
  name.flatMap fun c => if isWordCharacter c then [c] else ['\\', c]

/-- A name with a backslash before every character that is not of a word. -/
def backslashedName (name : String) : String :=
  String.ofList (backslashed name.toList)

/-- The lexemes that a character is written by. -/
def marked (c : Char) : List Lexeme :=
  if isWordCharacter c then [.plain c]
  else if c = '\n' then [.plain '\\', .plain '\n']
  else [.escaped c]

/-- What is read of a character that is written so. -/
def readBack (c : Char) : List Char :=
  if c = '\n' then ['\\', '\n'] else [c]

variable {c mark : Char} {name rest inner : List Char}

/-! ### The lexemes of a written name -/

theorem backslashed_cons_of_word (word : isWordCharacter c = true) (rest : List Char) :
    backslashed (c :: rest) = c :: backslashed rest := by
  rw [backslashed, List.flatMap_cons, if_pos word]
  rfl

theorem backslashed_cons_of_mark (notWord : isWordCharacter c = false) (rest : List Char) :
    backslashed (c :: rest) = '\\' :: c :: backslashed rest := by
  rw [backslashed, List.flatMap_cons, notWord]
  rfl

theorem ne_of_isWordCharacter (word : isWordCharacter c = true)
    (notWord : isWordCharacter mark = false) : c ≠ mark := by
  rintro rfl
  rw [word] at notWord
  cases notWord

/-- A written name begins with no mark but a backslash. -/
theorem backslashed_ne_cons (notWord : isWordCharacter mark = false) (other : mark ≠ '\\') :
    backslashed name ≠ mark :: inner := by
  cases name with
  | nil => exact (List.cons_ne_nil _ _).symm
  | cons c rest =>
    cases word : isWordCharacter c with
    | true =>
      rw [backslashed_cons_of_word word]
      exact fun same => ne_of_isWordCharacter word notWord (List.cons.inj same).1
    | false =>
      rw [backslashed_cons_of_mark word]
      exact fun same => other (List.cons.inj same).1.symm

/-- The lexemes of the spelling are those of its characters. -/
theorem lexemes_backslashed (name : List Char) :
    lexemes (backslashed name) = name.flatMap marked := by
  induction name with
  | nil => rw [backslashed, List.flatMap_nil, lexemes, List.flatMap_nil]
  | cons c rest ih =>
    rw [List.flatMap_cons, marked, ← ih]
    cases word : isWordCharacter c with
    | true =>
      rw [backslashed_cons_of_word word,
        lexemes_cons_of_ne (ne_of_isWordCharacter word (by decide))]
      rfl
    | false =>
      rw [backslashed_cons_of_mark word]
      by_cases lineFeed : c = '\n'
      · subst lineFeed
        rw [lexemes_lineFeed]
        rfl
      · have notOpening : c ≠ 'u' := (ne_of_isWordCharacter (by decide) word).symm
        rw [lexemes_escape notOpening lineFeed, if_neg Bool.false_ne_true, if_neg lineFeed]
        rfl

/-- No lexeme of a written name is taken up again: an escaped backslash is not followed by the
opening of a code point, since a brace has a backslash of its own. -/
theorem not_rereads_backslashed (name : List Char) : ¬ Rereads (lexemes (backslashed name)) := by
  induction name with
  | nil =>
    rw [lexemes_backslashed]
    exact not_rereads_nil
  | cons c rest ih =>
    cases word : isWordCharacter c with
    | true =>
      rw [backslashed_cons_of_word word,
        lexemes_cons_of_ne (ne_of_isWordCharacter word (by decide)), rereads_cons_iff]
      exact fun again => again.elim id ih
    | false =>
      rw [backslashed_cons_of_mark word]
      by_cases lineFeed : c = '\n'
      · subst lineFeed
        rw [lexemes_lineFeed, rereads_cons_iff, rereads_cons_iff]
        exact fun again => again.elim id fun later => later.elim id ih
      · have notOpening : c ≠ 'u' := (ne_of_isWordCharacter (by decide) word).symm
        rw [lexemes_escape notOpening lineFeed, rereads_cons_iff,
          takenUp_escaped_iff (scans_lexemes _)]
        rintro (⟨_, inner, _, _, begins, _⟩ | later)
        · cases rest with
          | nil => cases begins
          | cons d rest =>
            cases wordNext : isWordCharacter d with
            | true =>
              rw [backslashed_cons_of_word wordNext] at begins
              exact backslashed_ne_cons (by decide) (by decide) (List.cons.inj begins).2
            | false =>
              rw [backslashed_cons_of_mark wordNext] at begins
              exact absurd (List.cons.inj begins).1 (by decide)
        · exact ih later

/-! ### Reading a written name back -/

theorem mapM_read_marked (c : Char) : (marked c).mapM Lexeme.read = .ok (readBack c) := by
  cases word : isWordCharacter c with
  | true =>
    have notLineFeed : c ≠ '\n' := ne_of_isWordCharacter word (by decide)
    rw [marked, if_pos word, readBack, if_neg notLineFeed]
    rfl
  | false =>
    rw [marked, word, if_neg Bool.false_ne_true, readBack]
    by_cases lineFeed : c = '\n'
    · rw [if_pos lineFeed, if_pos lineFeed]
      rfl
    · rw [if_neg lineFeed, if_neg lineFeed]
      rfl

/-- The characters of a name are read back one by one. -/
theorem mapM_read_flatMap_marked (name : List Char) :
    (name.flatMap marked).mapM Lexeme.read = .ok (name.flatMap readBack) := by
  induction name with
  | nil => rfl
  | cons c rest ih =>
    rw [List.flatMap_cons, List.mapM_append, mapM_read_marked, ih]
    rfl

/-- The spelling begins with no quote. -/
theorem dropQuote_backslashed (name : List Char) :
    dropQuote (backslashed name) = backslashed name := by
  unfold dropQuote
  split
  · next same => exact absurd same (backslashed_ne_cons (by decide) (by decide))
  · rfl

/-- **What is read of a written name**: the name, with a backslash before every line feed. -/
theorem unescape_backslashed (name : List Char) :
    unescape (backslashed name) = .ok (name.flatMap readBack) := by
  have once : readOnce (backslashed name) = .ok (name.flatMap readBack) := by
    rw [readOnce, dropQuote_backslashed, lexemes_backslashed, mapM_read_flatMap_marked]
  apply (unescape_of_readOnce once).1
  rw [dropQuote_backslashed]
  exact not_rereads_backslashed name

/-- A quote in front does not matter. -/
theorem unescape_quoted_backslashed (name : List Char) :
    unescape ('\'' :: backslashed name) = .ok (name.flatMap readBack) := by
  have unquoted : (backslashed name).head? ≠ some '\'' := by
    intro quoted
    obtain ⟨rest, same⟩ := List.head?_eq_some_iff.mp quoted
    exact backslashed_ne_cons (by decide) (by decide) same
  rw [unescape_of_nameSpelling (.quoted unquoted), unescape_backslashed]

/-- What is read back is longer by one for each line feed. -/
theorem length_flatMap_readBack (name : List Char) :
    (name.flatMap readBack).length = name.length + name.count '\n' := by
  induction name with
  | nil => rfl
  | cons c rest ih =>
    rw [List.flatMap_cons, List.length_append, ih, List.length_cons, readBack]
    by_cases lineFeed : c = '\n'
    · subst lineFeed
      rw [if_pos rfl, List.count_cons_self, List.length_cons, List.length_singleton]
      omega
    · rw [if_neg lineFeed, List.count_cons_of_ne lineFeed, List.length_singleton]
      omega

/-- Only a name without line feeds is read back. -/
theorem flatMap_readBack_eq_self_iff : name.flatMap readBack = name ↔ '\n' ∉ name := by
  constructor
  · intro same
    have longer := length_flatMap_readBack name
    rw [same] at longer
    exact List.count_eq_zero.mp (by omega)
  · intro noLineFeed
    induction name with
    | nil => rfl
    | cons c rest ih =>
      rw [List.mem_cons, not_or] at noLineFeed
      rw [List.flatMap_cons, ih noLineFeed.2, readBack, if_neg (Ne.symm noLineFeed.1),
        List.singleton_append]

/-- Both spellings of a name are read as what its characters are read back as. -/
theorem unescape_of_backslashedName {name spelling : String}
    (spelled : spelling = backslashedName name ∨ spelling = "'" ++ backslashedName name) :
    unescape spelling.toList = .ok (name.toList.flatMap readBack) := by
  rcases spelled with rfl | rfl
  · rw [backslashedName, String.toList_ofList]
    exact unescape_backslashed name.toList
  · rw [String.toList_append, backslashedName, String.toList_ofList, String.toList_ofList]
    exact unescape_quoted_backslashed name.toList

/-- **Every name without a line feed has a spelling that is read back as it.** The name written
with a backslash before every mark, with a quote in front or without, stands for the name exactly
when that holds no line feed, and a declaration under it is compared by that name. -/
theorem reads_back_backslashed_iff {name spelling : String}
    (spelled : spelling = backslashedName name ∨ spelling = "'" ++ backslashedName name) :
    (plainName spelling = .ok name ↔ '\n' ∉ name.toList) ∧
      ∀ declaration : Declaration, declaration.name = spelling →
        (declaration.implemented =
            .ok ⟨name, declaration.type, declaration.form, declaration.location⟩ ↔
          '\n' ∉ name.toList) := by
  have plain : plainName spelling = .ok name ↔ '\n' ∉ name.toList := by
    rw [plainName, unescape_of_backslashedName spelled, ← flatMap_readBack_eq_self_iff]
    change Except.ok (String.ofList _) = Except.ok name ↔ _
    rw [Except.ok.injEq, ← String.toList_inj, String.toList_ofList]
  refine ⟨plain, ?_⟩
  intro declaration named
  rw [← plain, Declaration.implemented, named, Outcome.map_eq_ok_iff]
  constructor
  · intro given
    obtain ⟨other, read, same⟩ := given
    have sameName : other = name := congrArg ImplementedParameter.name same
    rw [read, sameName]
  · intro read
    exact ⟨name, read, rfl⟩

/-- A name with a quote, blanks and what looks like a code point, written with a quote in front. -/
theorem reads_back_backslashed_iff_mark :
    "'it\\'s\\ \\\\u\\\x7b41\\\x7d" = "'" ++ backslashedName "it's \\u\x7b41\x7d" ∧
      plainName "'it\\'s\\ \\\\u\\\x7b41\\\x7d" = .ok "it's \\u\x7b41\x7d" ∧
        (Declaration.required "'it\\'s\\ \\\\u\\\x7b41\\\x7d" "int?" {}).implemented =
          .ok { name := "it's \\u\x7b41\x7d", declaredType := "int", form := .required } := by
  have spelled : "'it\\'s\\ \\\\u\\\x7b41\\\x7d" = "'" ++ backslashedName "it's \\u\x7b41\x7d" := by
    decide +kernel
  have noLineFeed : '\n' ∉ "it's \\u\x7b41\x7d".toList := by decide
  obtain ⟨plain, declared⟩ := reads_back_backslashed_iff (.inr spelled)
  refine ⟨spelled, plain.mpr noLineFeed, ?_⟩
  rw [(declared (.required "'it\\'s\\ \\\\u\\\x7b41\\\x7d" "int?" {}) rfl).mpr noLineFeed]
  decide +kernel

end ParameterDrift.Identifier
