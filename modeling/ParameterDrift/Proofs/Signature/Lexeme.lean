import ParameterDrift.Proofs.Signature.CodePoint
/-! # Lexemes of an identifier

An identifier can be cut into lexemes from left to right: escapes of code points, characters after a
backslash, and plain characters (`ParameterDrift.Identifier.Scans`). Read lexeme by lexeme, every
escape is decoded once (`ParameterDrift.Identifier.readOnce`), and reading fails at a code point
beyond the last alone.
-/

namespace ParameterDrift.Identifier

/-- A part of an identifier that stands for one character. -/
inductive Lexeme
  /-- The escape of a code point. -/
  | codePoint (digits : List Char)
  /-- A character after a backslash. -/
  | escaped (c : Char)
  /-- A character as it is. -/
  | plain (c : Char)
  deriving DecidableEq

/-- **One scan of a text** from left to right. An escape of a code point is read as one, any other
backslash escapes the character after it unless this is a line feed, and any other character stands
for itself. -/
def lexemes : List Char → List Lexeme
  | [] => []
  | '\\' :: 'u' :: '\x7b' :: inner =>
    match _found : codePointDigits? inner with
    | some (digits, after) => .codePoint digits :: lexemes after
    | none => .escaped 'u' :: lexemes ('\x7b' :: inner)
  | '\\' :: c :: rest =>
    if c = '\n' then .plain '\\' :: lexemes (c :: rest) else .escaped c :: lexemes rest
  | c :: rest => .plain c :: lexemes rest
termination_by text => text.length
decreasing_by
  · have := length_rest_lt _found
    simp only [List.length_cons]
    omega
  all_goals simp only [List.length_cons]; omega

namespace Lexeme

/-- A lexeme as it is written. -/
def text : Lexeme → List Char
  | .codePoint digits => codePointEscape digits
  | .escaped c => ['\\', c]
  | .plain c => [c]

/-- The character that a lexeme stands for. -/
def character : Lexeme → Char
  | .codePoint digits => Identifier.character (Identifier.codePoint digits)
  | .escaped c => c
  | .plain c => c

/-- A code point beyond the last. -/
def IsFar : Lexeme → Prop
  | .codePoint digits => lastCodePoint < Identifier.codePoint digits
  | _ => False

/-- What a lexeme is read as. -/
def read : Lexeme → Except CodePointFault Char
  | .codePoint digits =>
    if lastCodePoint < Identifier.codePoint digits then .error ⟨Identifier.codePoint digits⟩
    else .ok (Identifier.character (Identifier.codePoint digits))
  | .escaped c => .ok c
  | .plain c => .ok c

end Lexeme

/-- **The plain text of an identifier read lexeme by lexeme**, after a quote in front. -/
def readOnce (text : List Char) : Except CodePointFault (List Char) :=
  (lexemes (dropQuote text)).mapM Lexeme.read

/-- The plain name that an identifier stands for when it is read in one scan. -/
def nameOnce (identifier : String) : Except CodePointFault String :=
  (readOnce identifier.toList).map String.ofList

/-- **How a text is cut into lexemes**, told by what may stand at each place. -/
inductive Scans : List Char → List Lexeme → Prop
  | done : Scans [] []
  | codePoint {inner digits after : List Char} {parts : List Lexeme} :
      codePointDigits? inner = some (digits, after) → Scans after parts →
      Scans ('\\' :: 'u' :: '\x7b' :: inner) (.codePoint digits :: parts)
  | escaped {c : Char} {rest : List Char} {parts : List Lexeme} : c ≠ '\n' →
      (∀ inner, '\\' :: c :: rest = '\\' :: 'u' :: '\x7b' :: inner →
        codePointDigits? inner = none) →
      Scans rest parts → Scans ('\\' :: c :: rest) (.escaped c :: parts)
  | plain {c : Char} {rest : List Char} {parts : List Lexeme} :
      (c = '\\' → rest = [] ∨ ∃ later, rest = '\n' :: later) →
      Scans rest parts → Scans (c :: rest) (.plain c :: parts)

variable {c : Char} {text rest digits : List Char} {lexeme : Lexeme} {parts : List Lexeme}

/-! ### The scan -/

/-- Every text is scanned as its lexemes. -/
theorem scans_lexemes (text : List Char) : Scans text (lexemes text) := by
  fun_induction lexemes text with
  | case1 => exact .done
  | case2 inner digits after found ih => exact .codePoint found ih
  | case3 inner unread ih =>
    refine .escaped (by decide) ?_ ih
    intro other same
    cases same
    exact unread
  | case4 rest notCodePoint ih => exact .plain (fun _ => .inr ⟨rest, rfl⟩) ih
  | case5 c rest notCodePoint notLineFeed ih =>
    refine .escaped notLineFeed ?_ ih
    intro inner same
    cases same
    exact absurd rfl (notCodePoint inner rfl)
  | case6 c rest notCodePoint notEscape ih =>
    refine .plain ?_ ih
    rintro rfl
    cases rest with
    | nil => exact .inl rfl
    | cons d rest => exact absurd rfl (notEscape d rest rfl)

theorem lexemes_cons_of_ne (other : c ≠ '\\') (rest : List Char) :
    lexemes (c :: rest) = .plain c :: lexemes rest := by
  rw [lexemes]
  · exact fun inner same => absurd same other
  · exact fun d later same => absurd same other

/-- A backslash before a line feed stands for itself. -/
theorem lexemes_lineFeed (rest : List Char) :
    lexemes ('\\' :: '\n' :: rest) = .plain '\\' :: .plain '\n' :: lexemes rest := by
  rw [lexemes, if_pos rfl, lexemes_cons_of_ne (by decide)]
  exact fun inner same => absurd same (by decide)

/-- A backslash before any other character escapes it. -/
theorem lexemes_escape (notOpening : c ≠ 'u') (notLineFeed : c ≠ '\n') (rest : List Char) :
    lexemes ('\\' :: c :: rest) = .escaped c :: lexemes rest := by
  rw [lexemes, if_neg notLineFeed]
  exact fun inner same => absurd same notOpening

/-- A backslash at the end or before a line feed begins no escape. -/
theorem unread_of_plain (ends : c = '\\' → rest = [] ∨ ∃ later, rest = '\n' :: later)
    {inner : List Char} (same : c :: rest = '\\' :: 'u' :: '\x7b' :: inner) :
    codePointDigits? inner = none := by
  obtain ⟨rfl, rfl⟩ := List.cons.inj same
  rcases ends rfl with none | ⟨later, lineFeed⟩
  · cases none
  · exact absurd (List.cons.inj lineFeed).1 (by decide)

/-- Nothing is lost in the scan. -/
theorem Scans.flatMap_text (scans : Scans text parts) : parts.flatMap Lexeme.text = text := by
  induction scans with
  | done => rfl
  | codePoint found _ ih =>
    obtain ⟨_, rfl⟩ := codePointDigits?_eq_some_iff.mp found
    simp [Lexeme.text, codePointEscape, ih]
  | escaped _ _ _ ih => simp [Lexeme.text, ih]
  | plain _ _ ih => simp [Lexeme.text, ih]

/-- The code points among the lexemes have digits. -/
theorem Scans.isCodePoint_of_mem (scans : Scans text parts) (member : .codePoint digits ∈ parts) :
    IsCodePoint digits := by
  induction scans with
  | done => cases member
  | codePoint found _ ih =>
    rcases List.mem_cons.mp member with same | later
    · cases same
      exact (codePointDigits?_eq_some_iff.mp found).1
    · exact ih later
  | escaped _ _ _ ih => exact ih (by simpa using member)
  | plain _ _ ih => exact ih (by simpa using member)

/-! ### Reading lexemes -/

/-- A lexeme is read unless it is a far code point. -/
theorem Lexeme.exists_read_eq_ok_iff : (∃ c, lexeme.read = .ok c) ↔ ¬ lexeme.IsFar := by
  cases lexeme with
  | codePoint digits =>
    rw [Lexeme.read, Lexeme.IsFar]
    split
    · next far => simp [far]
    · next near => simp [near]
  | escaped c => exact ⟨fun _ => id, fun _ => ⟨c, rfl⟩⟩
  | plain c => exact ⟨fun _ => id, fun _ => ⟨c, rfl⟩⟩

/-- It is read as its character. -/
theorem Lexeme.eq_character_of_read (read : lexeme.read = .ok c) : lexeme.character = c := by
  cases lexeme with
  | codePoint digits =>
    rw [Lexeme.read] at read
    split at read
    · cases read
    · exact Except.ok.inj read
  | escaped d => exact Except.ok.inj read
  | plain d => exact Except.ok.inj read

/-- Lexemes are read as their characters. -/
theorem map_character_of_mapM {chars : List Char} (read : parts.mapM Lexeme.read = .ok chars) :
    parts.map Lexeme.character = chars := by
  induction Outcome.mapM_eq_ok_iff.mp read with
  | nil => rfl
  | cons first others ih =>
    rw [List.map_cons, Lexeme.eq_character_of_read first, ih (Outcome.mapM_eq_ok_iff.mpr others)]

end ParameterDrift.Identifier
