import ParameterDrift.Proofs.Signature.Escapes
import ParameterDrift.Proofs.Signature.Lexeme
/-! # Escapes that are read twice

Reading an identifier in two passes takes some escapes up again: a backslash that a code point
stands for escapes the character after it, and an escaped backslash begins an escape with what
follows it. The two passes read what one scan reads exactly when neither happens
(`ParameterDrift.Identifier.plainName_agrees_iff`); otherwise they fail or lose characters. What the
second pass makes of a text is followed lexeme by lexeme (`ParameterDrift.Identifier.Tracks`).
-/

namespace ParameterDrift.Identifier

/-- What takes a backslash away that the first pass has put in front of it: a character other than a
line feed that is not escaped, be it behind escaped backslashes. -/
inductive Absorbs : List Lexeme → Prop
  | unescaped {lexeme : Lexeme} {rest : List Lexeme} : (∀ c, lexeme ≠ .escaped c) →
      lexeme.character ≠ '\n' → Absorbs (lexeme :: rest)
  | behind {rest : List Lexeme} : Absorbs rest → Absorbs (.escaped '\\' :: rest)

/-- A lexeme is taken up again when it stands for a backslash and the lexemes behind it make an
escape of that backslash: it is a code point and they absorb it, or it is an escaped backslash and
they are written like a code point after it. -/
def Lexeme.TakenUp : Lexeme → List Lexeme → Prop
  | .codePoint digits, after => character (.codePoint digits) = '\\' ∧ Absorbs after
  | .escaped c, after => c = '\\' ∧
      ∃ digits, IsCodePoint digits ∧ codePointEscape digits <+: '\\' :: after.flatMap Lexeme.text
  | .plain _, _ => False

/-- Some lexeme is taken up again. -/
def Rereads (parts : List Lexeme) : Prop :=
  ∃ before lexeme after, parts = before ++ lexeme :: after ∧ lexeme.TakenUp after

variable {c : Char} {text rest middle digits : List Char} {lexeme : Lexeme}
  {parts : List Lexeme}

/-! ### Lexemes that are taken up again -/

/-- Something is read again at the first lexeme or later. -/
theorem rereads_cons_iff : Rereads (lexeme :: parts) ↔ lexeme.TakenUp parts ∨ Rereads parts := by
  constructor
  · intro given
    obtain ⟨before, found, after, split, again⟩ := given
    cases before with
    | nil =>
      obtain ⟨rfl, rfl⟩ := List.cons.inj split
      exact .inl again
    | cons first before =>
      obtain ⟨rfl, rfl⟩ := List.cons.inj split
      exact .inr ⟨before, found, after, rfl, again⟩
  · rintro (again | ⟨before, found, after, rfl, again⟩)
    · exact ⟨[], lexeme, parts, rfl, again⟩
    · exact ⟨lexeme :: before, found, after, rfl, again⟩

theorem not_rereads_nil : ¬ Rereads [] := by
  rintro ⟨before, lexeme, after, split, _⟩
  simp at split

/-- An escaped character in front absorbs when it is a backslash and what follows absorbs. -/
theorem absorbs_escaped_iff : Absorbs (.escaped c :: parts) ↔ c = '\\' ∧ Absorbs parts := by
  constructor
  · intro absorbs
    cases absorbs with
    | unescaped notEscaped => exact absurd rfl (notEscaped c)
    | behind later => exact ⟨rfl, later⟩
  · rintro ⟨rfl, later⟩
    exact .behind later

/-- Any other lexeme in front absorbs unless it is a line feed. -/
theorem absorbs_iff_of_unescaped (unescaped : ∀ c, lexeme ≠ .escaped c) :
    Absorbs (lexeme :: parts) ↔ lexeme.character ≠ '\n' := by
  constructor
  · intro absorbs
    cases absorbs with
    | unescaped _ notLineFeed => exact notLineFeed
    | behind => exact absurd rfl (unescaped '\\')
  · exact .unescaped unescaped

/-! ### The second pass -/

/-- A backslash before a line feed stays. -/
theorem dropBackslashes_lineFeed (rest : List Char) :
    dropBackslashes ('\\' :: '\n' :: rest) = '\\' :: '\n' :: dropBackslashes rest := by
  rw [dropBackslashes, if_pos rfl]

/-- Before any other character it is dropped. -/
theorem dropBackslashes_escape (notLineFeed : c ≠ '\n') (rest : List Char) :
    dropBackslashes ('\\' :: c :: rest) = c :: dropBackslashes rest := by
  rw [dropBackslashes, if_neg notLineFeed]

/-- A character in front adds one character or none to what the second pass makes of a text. -/
theorem length_dropBackslashes_cons (c : Char) (text : List Char) :
    (dropBackslashes text).length ≤ (dropBackslashes (c :: text)).length ∧
      (dropBackslashes (c :: text)).length ≤ (dropBackslashes text).length + 1 := by
  induction text generalizing c with
  | nil =>
    have single : dropBackslashes [c] = [c] := by
      by_cases backslash : c = '\\'
      · subst backslash
        rfl
      · exact dropBackslashes_cons_of_ne backslash []
    simp [single, dropBackslashes]
  | cons d rest ih =>
    by_cases backslash : c = '\\'
    · subst backslash
      by_cases lineFeed : d = '\n'
      · subst lineFeed
        rw [dropBackslashes_lineFeed, dropBackslashes_cons_of_ne (by decide)]
        simp
      · rw [dropBackslashes_escape lineFeed, List.length_cons]
        have shorter := ih d
        omega
    · rw [dropBackslashes_cons_of_ne backslash, List.length_cons]
      omega

/-! ### What the second pass makes of the lexemes -/

/-- A text that is read is the exact one, or shorter when something is lost. -/
structure KeptUnless (lost : Prop) (read exact : List Char) : Prop where
  kept : ¬ lost → read = exact
  shorter : lost → read.length < exact.length

namespace KeptUnless

variable {lost : Prop} {read exact : List Char}

/-- What is read is not longer than the exact reading. -/
theorem length_le (keeps : KeptUnless lost read exact) : read.length ≤ exact.length := by
  by_cases given : lost
  · exact (keeps.shorter given).le
  · exact (congrArg List.length (keeps.kept given)).le

/-- The same character may stand in front of both. -/
theorem cons (keeps : KeptUnless lost read exact) (c : Char) :
    KeptUnless lost (c :: read) (c :: exact) where
  kept given := congrArg (c :: ·) (keeps.kept given)
  shorter given := Nat.succ_lt_succ (keeps.shorter given)

/-- Where something is lost, less is read. -/
theorem of_lost (given : lost) (shorter : read.length < exact.length) :
    KeptUnless lost read exact where
  kept absent := absurd given absent
  shorter _ := shorter

end KeptUnless

/-- **What the second pass makes of a text** that the first has made of some lexemes: their
characters, unless one is taken up again. Behind a backslash that the first pass has brought forth,
they must not absorb it either. -/
structure Tracks (parts : List Lexeme) (middle : List Char) : Prop where
  alone : KeptUnless (Rereads parts) (dropBackslashes middle) (parts.map Lexeme.character)
  behind : KeptUnless (Absorbs parts ∨ Rereads parts) (dropBackslashes ('\\' :: middle))
    ('\\' :: parts.map Lexeme.character)

namespace Tracks

theorem nil : Tracks [] [] where
  alone := ⟨fun _ => rfl, fun again => absurd again not_rereads_nil⟩
  behind := by
    refine ⟨fun _ => rfl, ?_⟩
    rintro (absorbs | again)
    · cases absorbs
    · exact absurd again not_rereads_nil

/-- Behind a backslash a character that is not escaped is kept when it is a line feed, and takes
the backslash away otherwise. -/
theorem behind_of_unescaped (tracks : Tracks parts middle)
    (unescaped : ∀ c, lexeme ≠ .escaped c)
    (alone : KeptUnless (Rereads (lexeme :: parts)) (dropBackslashes (lexeme.character :: middle))
      ((lexeme :: parts).map Lexeme.character)) :
    KeptUnless (Absorbs (lexeme :: parts) ∨ Rereads (lexeme :: parts))
      (dropBackslashes ('\\' :: lexeme.character :: middle))
      ('\\' :: (lexeme :: parts).map Lexeme.character) := by
  rw [absorbs_iff_of_unescaped unescaped]
  by_cases lineFeed : lexeme.character = '\n'
  · rw [or_iff_right (not_not_intro lineFeed)]
    have whole := alone.cons '\\'
    rwa [lineFeed, dropBackslashes_cons_of_ne (by decide), ← dropBackslashes_lineFeed,
      ← lineFeed] at whole
  · refine .of_lost (.inl lineFeed) ?_
    rw [dropBackslashes_escape lineFeed]
    have short := tracks.alone.length_le
    simp only [List.length_cons, List.map_cons]
    omega

/-- A code point in front is read as its character. -/
theorem codePoint (tracks : Tracks parts middle) (digits : List Char) :
    Tracks (.codePoint digits :: parts) ((Lexeme.codePoint digits).character :: middle) := by
  have alone : KeptUnless (Rereads (.codePoint digits :: parts))
      (dropBackslashes ((Lexeme.codePoint digits).character :: middle))
      ((.codePoint digits :: parts).map Lexeme.character) := by
    rw [rereads_cons_iff, Lexeme.TakenUp, List.map_cons]
    by_cases backslash : (Lexeme.codePoint digits).character = '\\'
    · simpa only [backslash, true_and] using tracks.behind
    · rw [dropBackslashes_cons_of_ne backslash, or_iff_right fun again => backslash again.1]
      exact tracks.alone.cons _
  exact ⟨alone, tracks.behind_of_unescaped (fun c => nofun) alone⟩

/-- A plain character stays what it is, unless it is a backslash that escapes something. -/
theorem plain (tracks : Tracks parts middle)
    (kept : dropBackslashes (c :: middle) = c :: dropBackslashes middle) :
    Tracks (.plain c :: parts) (c :: middle) := by
  have alone : KeptUnless (Rereads (.plain c :: parts)) (dropBackslashes (c :: middle))
      ((.plain c :: parts).map Lexeme.character) := by
    have once : ¬ (Lexeme.plain c).TakenUp parts := id
    rw [rereads_cons_iff, or_iff_right once, kept]
    exact tracks.alone.cons c
  exact ⟨alone, tracks.behind_of_unescaped (fun c => nofun) alone⟩

/-- An escaped character stays what it is, also behind a backslash: the two backslashes are one
then, and the character stands for itself or is the backslash of what follows. -/
theorem escaped (tracks : Tracks parts middle) (notLineFeed : c ≠ '\n')
    (once : ¬ (Lexeme.escaped c).TakenUp parts) :
    Tracks (.escaped c :: parts) ('\\' :: c :: middle) where
  alone := by
    rw [rereads_cons_iff, or_iff_right once, dropBackslashes_escape notLineFeed]
    exact tracks.alone.cons c
  behind := by
    rw [rereads_cons_iff, or_iff_right once, absorbs_escaped_iff,
      dropBackslashes_escape (by decide)]
    by_cases backslash : c = '\\'
    · subst backslash
      simpa only [true_and, List.map_cons, Lexeme.character] using tracks.behind.cons '\\'
    · rw [or_iff_right fun absorbs => backslash absorbs.1, dropBackslashes_cons_of_ne backslash]
      exact (tracks.alone.cons c).cons '\\'

/-- An escaped backslash that the first pass takes for the beginning of a code point is lost with
the code point. -/
theorem takenUp {later : List Char} (again : (Lexeme.escaped '\\').TakenUp parts)
    (short : (dropBackslashes later).length + 2 ≤ parts.length) (c : Char) :
    Tracks (.escaped '\\' :: parts) ('\\' :: c :: later) := by
  have rereads : Rereads (.escaped '\\' :: parts) := rereads_cons_iff.mpr (.inl again)
  have first := (length_dropBackslashes_cons c later).2
  have second := (length_dropBackslashes_cons '\\' (c :: later)).2
  have third := (length_dropBackslashes_cons '\\' ('\\' :: c :: later)).2
  constructor
  · refine .of_lost rereads ?_
    simp only [List.length_map, List.length_cons]
    omega
  · refine .of_lost (.inr rereads) ?_
    simp only [List.length_map, List.length_cons]
    omega

end Tracks

/-! ### The first pass -/

/-- Where no escape begins the first character stays. -/
theorem replaceCodePoints_cons
    (unread : ∀ inner, c :: rest = '\\' :: 'u' :: '\x7b' :: inner → codePointDigits? inner = none) :
    replaceCodePoints (c :: rest) = (replaceCodePoints rest).map (c :: ·) := by
  rw [replaceCodePoints.eq_def]
  split
  · next same => cases same
  · next inner same =>
    obtain ⟨rfl, rfl⟩ := List.cons.inj same
    split
    · next found =>
      rw [unread inner rfl] at found
      cases found
    · rfl
  · next same =>
    obtain ⟨rfl, rfl⟩ := List.cons.inj same
    rfl

/-- What is behind it is then replaced by itself. -/
theorem exists_of_replaceCodePoints_cons
    (unread : ∀ inner, c :: rest = '\\' :: 'u' :: '\x7b' :: inner → codePointDigits? inner = none)
    (replaced : replaceCodePoints (c :: rest) = .ok middle) :
    ∃ later, replaceCodePoints rest = .ok later ∧ c :: later = middle := by
  rw [replaceCodePoints_cons unread] at replaced
  exact Outcome.map_eq_ok_iff.mp replaced

/-- Where one begins it is replaced unless it is far. -/
theorem replaceCodePoints_codePoint (found : codePointDigits? text = some (digits, rest)) :
    replaceCodePoints ('\\' :: 'u' :: '\x7b' :: text) =
      if lastCodePoint < codePoint digits then .error ⟨codePoint digits⟩
      else (replaceCodePoints rest).map (character (codePoint digits) :: ·) := by
  rw [replaceCodePoints]
  split
  · next others after same =>
    rw [found] at same
    cases same
    rfl
  · next unread =>
    rw [found] at unread
    cases unread

/-- An escaped backslash is taken up when what looks like a code point comes next. -/
theorem takenUp_escaped_iff (scans : Scans rest parts) :
    (Lexeme.escaped c).TakenUp parts ↔
      c = '\\' ∧ ∃ inner digits after, rest = 'u' :: '\x7b' :: inner ∧
        codePointDigits? inner = some (digits, after) := by
  rw [Lexeme.TakenUp, scans.flatMap_text]
  refine and_congr_right fun _ => ?_
  constructor
  · intro given
    obtain ⟨digits, written, after, whole⟩ := given
    simp only [codePointEscape, List.cons_append, List.cons.injEq, true_and] at whole
    refine ⟨_, digits, after, whole.symm, codePointDigits?_eq_some_iff.mpr ⟨written, ?_⟩⟩
    rw [List.append_assoc, List.singleton_append]
  · intro given
    obtain ⟨inner, digits, after, rfl, found⟩ := given
    obtain ⟨written, rfl⟩ := codePointDigits?_eq_some_iff.mp found
    exact ⟨digits, written, codePointEscape_prefix_iff.mpr ⟨after, rfl⟩⟩

/-- An escaped character that is not taken up again begins no escape of a code point. -/
theorem unread_of_not_takenUp (scans : Scans rest parts)
    (once : ¬ (Lexeme.escaped c).TakenUp parts) {inner : List Char}
    (same : c :: rest = '\\' :: 'u' :: '\x7b' :: inner) : codePointDigits? inner = none := by
  obtain ⟨rfl, rfl⟩ := List.cons.inj same
  cases found : codePointDigits? inner with
  | none => rfl
  | some read =>
    exact absurd ((takenUp_escaped_iff scans).mpr ⟨rfl, inner, read.1, read.2, rfl, found⟩) once

/-- The opening and the digits of a code point are longer than the two characters that the second
pass can make of its backslashes. -/
theorem length_le_of_codePoint {inner later : List Char}
    (found : codePointDigits? inner = some (digits, rest))
    (replaced : replaceCodePoints rest = .ok later)
    (tracks : ∀ {middle}, replaceCodePoints ('u' :: '\x7b' :: inner) = .ok middle →
      Tracks parts middle) :
    (dropBackslashes later).length + 2 ≤ parts.length := by
  obtain ⟨written, rfl⟩ := codePointDigits?_eq_some_iff.mp found
  have split : 'u' :: '\x7b' :: (digits ++ '\x7d' :: rest) =
      'u' :: '\x7b' :: (digits ++ ['\x7d']) ++ rest := by simp
  have whole : replaceCodePoints ('u' :: '\x7b' :: (digits ++ '\x7d' :: rest)) =
      .ok ('u' :: '\x7b' :: (digits ++ ['\x7d']) ++ later) := by
    rw [split, replaceCodePoints_append written.backslash_notMem, replaced]
    rfl
  have short := (tracks whole).alone.length_le
  rw [dropBackslashes_append written.backslash_notMem] at short
  simp only [List.cons_append, List.length_cons, List.length_append, List.length_map] at short
  omega

/-- **What the two passes make of a text.** -/
theorem Scans.tracks (scans : Scans text parts) (replaced : replaceCodePoints text = .ok middle) :
    Tracks parts middle := by
  -- on the scan: each lexeme does to the second pass what its step above says
  induction scans generalizing middle with
  | done =>
    rw [replaceCodePoints] at replaced
    cases replaced
    exact .nil
  | @codePoint _ digits _ _ found _ ih =>
    rw [replaceCodePoints_codePoint found] at replaced
    split at replaced
    · cases replaced
    · obtain ⟨later, replacedLater, rfl⟩ := Outcome.map_eq_ok_iff.mp replaced
      exact (ih replacedLater).codePoint digits
  | @escaped c _ parts notLineFeed unread scans ih =>
    obtain ⟨_, replacedRest, rfl⟩ := exists_of_replaceCodePoints_cons unread replaced
    -- the first pass goes on with the escaped character, and does not see that it is escaped
    by_cases again : (Lexeme.escaped c).TakenUp parts
    · obtain ⟨rfl, inner, digits, after, rfl, found⟩ := (takenUp_escaped_iff scans).mp again
      rw [replaceCodePoints_codePoint found] at replacedRest
      split at replacedRest
      · cases replacedRest
      · obtain ⟨later, replacedLater, rfl⟩ := Outcome.map_eq_ok_iff.mp replacedRest
        exact .takenUp again (length_le_of_codePoint found replacedLater ih) _
    · obtain ⟨later, replacedLater, rfl⟩ :=
        exists_of_replaceCodePoints_cons (fun _ => unread_of_not_takenUp scans again) replacedRest
      exact (ih replacedLater).escaped notLineFeed again
  | @plain c rest _ ends _ ih =>
    obtain ⟨later, replacedLater, rfl⟩ :=
      exists_of_replaceCodePoints_cons (fun _ => unread_of_plain ends) replaced
    apply (ih replacedLater).plain
    by_cases backslash : c = '\\'
    · subst backslash
      rcases ends rfl with rfl | ⟨others, rfl⟩
      · rw [replaceCodePoints] at replacedLater
        cases replacedLater
        rfl
      · obtain ⟨_, _, rfl⟩ := exists_of_replaceCodePoints_cons (by simp) replacedLater
        rw [dropBackslashes_lineFeed, dropBackslashes_cons_of_ne (by decide)]
    · exact dropBackslashes_cons_of_ne backslash later

/-! ### Code points beyond the last -/

/-- A far lexeme is a far code point of the text. -/
theorem Scans.holdsFarCodePoint (scans : Scans text parts) (member : lexeme ∈ parts)
    (far : lexeme.IsFar) : HoldsFarCodePoint text := by
  cases lexeme with
  | codePoint digits =>
    have within : codePointEscape digits <:+: parts.flatMap Lexeme.text :=
      List.infix_of_mem_flatten (List.mem_map_of_mem member)
    rw [scans.flatMap_text] at within
    exact ⟨digits, scans.isCodePoint_of_mem member, far, within⟩
  | escaped c => cases far
  | plain c => cases far

/-- What goes wrong behind a lexeme goes wrong with it. -/
theorem far_or_rereads_cons (lexeme : Lexeme)
    (given : (∃ other ∈ parts, other.IsFar) ∨ Rereads parts) :
    (∃ other ∈ lexeme :: parts, other.IsFar) ∨ Rereads (lexeme :: parts) := by
  rw [rereads_cons_iff, List.exists_mem_cons_iff]
  exact given.imp .inr .inr

/-- Where a text holds a code point beyond the last, a lexeme is one, or its backslash belongs to an
escape that is taken up again. -/
theorem Scans.far_or_rereads (scans : Scans text parts) (holds : HoldsFarCodePoint text) :
    (∃ lexeme ∈ parts, lexeme.IsFar) ∨ Rereads parts := by
  induction scans with
  | done =>
    obtain ⟨digits, _, _, inside⟩ := holds
    cases List.infix_nil.mp inside
  | codePoint found _ ih =>
    rcases (holdsFarCodePoint_escape_iff found).mp holds with far | later
    · exact .inl ⟨_, List.mem_cons_self, far⟩
    · exact far_or_rereads_cons _ (ih later)
  | @escaped c _ parts _ unread scans ih =>
    rw [holdsFarCodePoint_cons_iff_of_not unread] at holds
    by_cases again : (Lexeme.escaped c).TakenUp parts
    · exact .inr (rereads_cons_iff.mpr (.inl again))
    · rw [holdsFarCodePoint_cons_iff_of_not fun _ => unread_of_not_takenUp scans again] at holds
      exact far_or_rereads_cons _ (ih holds)
  | plain ends _ ih =>
    rw [holdsFarCodePoint_cons_iff_of_not fun _ => unread_of_plain ends] at holds
    exact far_or_rereads_cons _ (ih holds)

/-! ### The two readings -/

/-- Where the single scan fails, so do the two passes. -/
theorem exists_unescape_eq_error {fault : CodePointFault} (failed : readOnce text = .error fault) :
    ∃ fault, unescape text = .error fault := by
  obtain ⟨lexeme, member, failure⟩ := Outcome.exists_of_mapM_eq_error failed
  have far : lexeme.IsFar := by
    by_contra near
    obtain ⟨c, read⟩ := Lexeme.exists_read_eq_ok_iff.mpr near
    rw [read] at failure
    cases failure
  have holds := holdsFarCodePoint_dropQuote_iff.mp ((scans_lexemes _).holdsFarCodePoint member far)
  cases outcome : unescape text with
  | error fault => exact ⟨fault, rfl⟩
  | ok plain => exact absurd holds ((exists_unescape_eq_ok_iff text).mp ⟨plain, outcome⟩)

/-- Where the single scan reads a text, the two passes read the same unless something is taken up
again; then they fail or read less. -/
theorem unescape_of_readOnce {chars : List Char} (read : readOnce text = .ok chars) :
    (¬ Rereads (lexemes (dropQuote text)) → unescape text = .ok chars) ∧
      (Rereads (lexemes (dropQuote text)) →
        ∀ plain, unescape text = .ok plain → plain.length < chars.length) := by
  rw [← map_character_of_mapM read]
  constructor
  · intro once
    have near : ¬ ∃ lexeme ∈ lexemes (dropQuote text), lexeme.IsFar := by
      rintro ⟨lexeme, member, far⟩
      obtain ⟨c, readable⟩ := Outcome.exists_mapM_eq_ok_iff.mp ⟨chars, read⟩ lexeme member
      exact Lexeme.exists_read_eq_ok_iff.mp ⟨c, readable⟩ far
    have replaced : ∃ middle, replaceCodePoints (dropQuote text) = .ok middle := by
      rw [exists_replaceCodePoints_eq_ok_iff]
      exact fun holds => ((scans_lexemes _).far_or_rereads holds).elim near once
    obtain ⟨middle, replaced⟩ := replaced
    exact unescape_eq_ok_iff.mpr
      ⟨middle, replaced, ((scans_lexemes _).tracks replaced).alone.kept once⟩
  · intro again plain unescaped
    obtain ⟨middle, replaced, rfl⟩ := unescape_eq_ok_iff.mp unescaped
    exact ((scans_lexemes _).tracks replaced).alone.shorter again

/-- **When an identifier is decoded once.** Reading it in two passes gives what one scan gives
exactly when the scan fails as well or no lexeme is taken up again. -/
theorem plainName_agrees_iff (identifier : String) :
    (plainName identifier).toOption = (nameOnce identifier).toOption ↔
      (∃ fault, nameOnce identifier = .error fault) ∨
        ¬ Rereads (lexemes (dropQuote identifier.toList)) := by
  cases once : readOnce identifier.toList with
  | error fault =>
    obtain ⟨other, failed⟩ := exists_unescape_eq_error once
    rw [plainName, nameOnce, once, failed]
    exact iff_of_true rfl (.inl ⟨fault, rfl⟩)
  | ok chars =>
    obtain ⟨same, shorter⟩ := unescape_of_readOnce once
    rw [plainName, nameOnce, once, or_iff_right (by rintro ⟨fault, ⟨⟩⟩)]
    constructor
    · intro agree again
      cases twice : unescape identifier.toList with
      | error fault =>
        rw [twice] at agree
        cases agree
      | ok plain =>
        rw [twice] at agree
        have equal : plain = chars := String.ofList_injective (Option.some.inj agree)
        exact absurd (congrArg List.length equal) (shorter again plain twice).ne
    · intro unread
      rw [same unread]

/-- An escaped backslash before what looks like a code point, and a code point that stands for a
backslash before a letter: one scan reads backslashes, the two passes lose them. -/
theorem plainName_ne_nameOnce_of_backslash :
    plainName "\\\\u\x7b41\x7d" = .ok "A" ∧ nameOnce "\\\\u\x7b41\x7d" = .ok "\\u\x7b41\x7d" ∧
      plainName "\\u\x7b5c\x7dn" = .ok "n" ∧ nameOnce "\\u\x7b5c\x7dn" = .ok "\\n" := by
  decide +kernel

end ParameterDrift.Identifier
