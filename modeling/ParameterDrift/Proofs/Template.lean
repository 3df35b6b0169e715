import Mathlib.Data.List.Basic
import ParameterDrift.Finding
import ParameterDrift.Proofs.Outcome
/-! # Templates as text

A template is written as a text in which the number of an argument stands in braces. Formatting
reads such a text once, from the left, and puts arguments in the place of their numbers; what an
argument brings is not read again, so it may hold braces and numbers of its own. For a template
whose words hold no brace, formatting the written text gives what filling in its parts gives
(`ParameterDrift.Template.format_written`).
-/

namespace ParameterDrift

/-- A part of a template as it is written. -/
def TemplatePart.written : TemplatePart → List Char
  | .words text => text.toList
  | .argument index => '\x7b' :: (Nat.toDigits 10 index ++ ['\x7d'])

namespace Template

/-- Whether a character is a brace. -/
def isBrace (c : Char) : Bool :=
  c == '\x7b' || c == '\x7d'

/-- Whether no brace stands among the words of a part. -/
def isPlain : TemplatePart → Bool
  | .words text => text.toList.all fun c => !isBrace c
  | .argument _ => true

/-- A template as it is written. -/
def written (template : List TemplatePart) : List Char :=
  template.flatMap TemplatePart.written

/-- The argument that some digits ask for. -/
def argument? (arguments : List String) (digits : List Char) : Option String :=
  if !digits.isEmpty && digits.all Char.isDigit then arguments[Nat.ofDigitChars 10 digits 0]?
  else none

/-- Format what is left of a text, where `field` is what was read of an open pair of braces. A brace
that is doubled stands for itself; formatting fails at any other brace that is not one of a pair
around the number of an argument. -/
def scan (arguments : List String) : (field : Option (List Char)) → List Char → Option (List Char)
  | none, [] => some []
  | none, '\x7b' :: '\x7b' :: rest => (scan arguments none rest).map ('\x7b' :: ·)
  | none, '\x7d' :: '\x7d' :: rest => (scan arguments none rest).map ('\x7d' :: ·)
  | none, '\x7b' :: rest => scan arguments (some []) rest
  | none, '\x7d' :: _ => none
  | none, c :: rest => (scan arguments none rest).map (c :: ·)
  | some _, [] => none
  | some field, '\x7d' :: rest =>
    (argument? arguments field).bind fun text => (scan arguments none rest).map (text.toList ++ ·)
  | some field, c :: rest => scan arguments (some (field ++ [c])) rest

/-- Format a text. -/
def format (arguments : List String) (text : List Char) : Option (List Char) :=
  scan arguments none text

variable {arguments : List String} {rest field digits words : List Char}

theorem ne_of_isBrace_eq_false {c : Char} (plain : isBrace c = false) : c ≠ '\x7b' ∧ c ≠ '\x7d' := by
  simpa [isBrace] using plain

theorem scan_plain {c : Char} (plain : isBrace c = false) :
    scan arguments none (c :: rest) = (scan arguments none rest).map (c :: ·) := by
  obtain ⟨opens, closes⟩ := ne_of_isBrace_eq_false plain
  rw [scan] <;> simp_all

/-- Words are taken over. -/
theorem scan_words (plain : ∀ c ∈ words, isBrace c = false) :
    scan arguments none (words ++ rest) = (scan arguments none rest).map (words ++ ·) := by
  induction words with
  | nil => exact Option.map_id'.symm
  | cons c words ih =>
    obtain ⟨first, others⟩ := List.forall_mem_cons.mp plain
    rw [List.cons_append, scan_plain first, ih others, Option.map_map]
    rfl

theorem isBrace_of_isDigit {c : Char} (digit : c.isDigit) : isBrace c = false := by
  by_contra brace
  rw [Bool.not_eq_false, isBrace, Bool.or_eq_true, beq_iff_eq, beq_iff_eq] at brace
  rcases brace with rfl | rfl
  · cases digit
  · cases digit

/-- Digits are kept until the closing brace. -/
theorem scan_digits (number : ∀ c ∈ digits, c.isDigit) :
    scan arguments (some field) (digits ++ '\x7d' :: rest) =
      (argument? arguments (field ++ digits)).bind fun text =>
        (scan arguments none rest).map (text.toList ++ ·) := by
  induction digits generalizing field with
  | nil =>
    rw [List.append_nil, List.nil_append, scan]
  | cons c digits ih =>
    obtain ⟨first, others⟩ := List.forall_mem_cons.mp number
    have step : scan arguments (some field) (c :: (digits ++ '\x7d' :: rest)) =
        scan arguments (some (field ++ [c])) (digits ++ '\x7d' :: rest) := by
      rw [scan]
      exact (ne_of_isBrace_eq_false (isBrace_of_isDigit first)).2
    rw [List.cons_append, step, ih others, List.append_assoc, List.singleton_append]

/-- The decimal form of a number has digits only. -/
theorem isDigit_of_mem_toDigits {index : Nat} {c : Char} (member : c ∈ Nat.toDigits 10 index) :
    c.isDigit :=
  Nat.isDigit_of_mem_toDigits (by decide) (by decide) member

/-- The number of an argument is read as it is written. -/
theorem argument?_toDigits (index : Nat) :
    argument? arguments (Nat.toDigits 10 index) = arguments[index]? := by
  have number : (!(Nat.toDigits 10 index).isEmpty && (Nat.toDigits 10 index).all Char.isDigit) := by
    rw [Bool.and_eq_true, Bool.not_eq_true', List.isEmpty_eq_false_iff, List.all_eq_true]
    exact ⟨Nat.toDigits_ne_nil, fun c member => isDigit_of_mem_toDigits member⟩
  rw [argument?, if_pos number, Nat.ofDigitChars_toDigits (by decide) (by decide)]

/-- A number in braces becomes the argument of that number. -/
theorem scan_argument (index : Nat) :
    scan arguments none (TemplatePart.written (.argument index) ++ rest) =
      arguments[index]?.bind fun text => (scan arguments none rest).map (text.toList ++ ·) := by
  have opened : scan arguments none (TemplatePart.written (.argument index) ++ rest) =
      scan arguments (some []) (Nat.toDigits 10 index ++ '\x7d' :: rest) := by
    rw [TemplatePart.written, List.cons_append, List.append_assoc, List.singleton_append]
    cases same : Nat.toDigits 10 index with
    | nil => exact absurd same Nat.toDigits_ne_nil
    | cons c later =>
      -- the brace opens a field, as no second brace follows it
      have digit : c.isDigit := isDigit_of_mem_toDigits (same ▸ List.mem_cons_self)
      have notBrace : c ≠ '\x7b' := (ne_of_isBrace_eq_false (isBrace_of_isDigit digit)).1
      rw [List.cons_append, scan]
      intro after again
      exact notBrace (List.cons.inj again).1
  rw [opened, scan_digits fun c => isDigit_of_mem_toDigits, List.nil_append, argument?_toDigits]

/-- A part becomes what it is filled with. -/
theorem scan_part {part : TemplatePart} (plain : isPlain part) :
    scan arguments none (part.written ++ rest) =
      (part.fill arguments).toOption.bind fun text =>
        (scan arguments none rest).map (text.toList ++ ·) := by
  cases part with
  | words text =>
    rw [isPlain, List.all_eq_true] at plain
    exact scan_words fun c member => (Bool.not_eq_true' _).mp (plain c member)
  | argument index =>
    rw [scan_argument, TemplatePart.fill]
    cases arguments[index]? with
    | none => rfl
    | some text => rfl

/-- What a template comes to when its parts are filled in. -/
def filled (arguments : List String) (template : List TemplatePart) : Option (List Char) :=
  ((template.mapM (TemplatePart.fill arguments)).map String.join).toOption.map String.toList

/-- A template is filled part by part. -/
theorem filled_cons (part : TemplatePart) (template : List TemplatePart) :
    filled arguments (part :: template) = (part.fill arguments).toOption.bind fun text =>
      (filled arguments template).map (text.toList ++ ·) := by
  rw [filled, filled, List.mapM_cons]
  cases part.fill arguments with
  | error fault => rfl
  | ok text =>
    cases template.mapM (TemplatePart.fill arguments) with
    | error fault => rfl
    | ok later =>
      change some (String.join (text :: later)).toList =
        some (text.toList ++ (String.join later).toList)
      rw [String.join_cons, String.toList_append]

/-- **Formatting is filling in.** The arguments may be any texts: they stand in the result as they
are. -/
theorem format_written {template : List TemplatePart} (plain : template.all isPlain) :
    format arguments (written template) = filled arguments template := by
  rw [format]
  induction template with
  | nil => rfl
  | cons part template ih =>
    rw [List.all_cons, Bool.and_eq_true] at plain
    obtain ⟨first, others⟩ := plain
    rw [filled_cons, ← ih others]
    exact scan_part first

example : format ["\x7b1\x7d", "a"] "\x7b0\x7d-\x7b1\x7d".toList = some "\x7b1\x7d-a".toList := by
  decide

end Template

end ParameterDrift
