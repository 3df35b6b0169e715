import Mathlib.Data.List.TakeWhile
import ParameterDrift.Proofs.Contract.Reference
/-! # References to a given name

Every component can be referred to, whatever its name is made of. The reference begins with a text
that points into the document and ends in a slash; behind it stands the name, with `~0` for each
tilde and `~1` for each slash. Such a reference ends in that name and in no other
(`ParameterDrift.Reference.name?_ofName`), so it leads to the component that has the name, and
nowhere when there is none or when that is a reference too
(`ParameterDrift.ContractParameter.resolve_ofName`).
-/

namespace ParameterDrift

namespace Reference

/-- A character as a pointer writes it. -/
def encodeCharacter (c : Char) : List Char :=
  if c = '~' then ['~', '0'] else if c = '/' then ['~', '1'] else [c]

/-- A text as a part of a pointer. -/
def encode (text : List Char) : List Char :=
  text.flatMap encodeCharacter

/-- The reference to a name, behind what references begin with. -/
def ofName (start name : String) : String :=
  start ++ String.ofList (encode name.toList)

variable {digit image c : Char} {text : List Char} {start name : String}

/-! ### One character of a pointer -/

theorem replaceTilde_cons_of_ne (plain : c ≠ '~') :
    replaceTilde digit image (c :: text) = c :: replaceTilde digit image text :=
  replaceTilde.eq_2 digit image c text fun _ _ same _ => plain same

theorem replaceTilde_self :
    replaceTilde digit image ('~' :: digit :: text) = image :: replaceTilde digit image text := by
  rw [replaceTilde, if_pos rfl]

/-- A tilde before another character is kept. -/
theorem replaceTilde_of_ne (other : c ≠ digit) :
    replaceTilde digit image ('~' :: c :: text) =
      '~' :: replaceTilde digit image (c :: text) := by
  rw [replaceTilde, if_neg other]

theorem decode_tilde : decode ('~' :: '0' :: text) = '~' :: decode text := by
  -- the first replacement leaves the mark of a tilde alone, the second takes it
  have kept : '0' ≠ '1' := by decide
  have plain : '0' ≠ '~' := by decide
  rw [decode, replaceTilde_of_ne kept, replaceTilde_cons_of_ne plain, replaceTilde_self, decode]

theorem decode_slash : decode ('~' :: '1' :: text) = '/' :: decode text := by
  -- the slash that the first replacement brings forth is passed over by the second
  rw [decode, replaceTilde_self, replaceTilde_cons_of_ne (by decide), decode]

theorem decode_cons_of_ne (plain : c ≠ '~') : decode (c :: text) = c :: decode text := by
  rw [decode, replaceTilde_cons_of_ne plain, replaceTilde_cons_of_ne plain, decode]

/-- What a character is encoded as is decoded to it, whatever follows. -/
theorem decode_encodeCharacter (c : Char) (text : List Char) :
    decode (encodeCharacter c ++ text) = c :: decode text := by
  rw [encodeCharacter]
  split
  · next tilde =>
    subst tilde
    exact decode_tilde
  · next plain =>
    split
    · next slash =>
      subst slash
      exact decode_slash
    · exact decode_cons_of_ne plain

theorem slash_notMem_encodeCharacter (c : Char) : '/' ∉ encodeCharacter c := by
  rw [encodeCharacter]
  split
  · decide
  · split
    · decide
    · next other => exact fun member => other (List.mem_singleton.mp member).symm

/-! ### The whole name -/

/-- **A part of a pointer is read back**, whatever it is made of. -/
theorem decode_encode (text : List Char) : decode (encode text) = text := by
  induction text with
  | nil => rfl
  | cons c rest ih => rw [encode, List.flatMap_cons, decode_encodeCharacter, ← encode, ih]

/-- No text is encoded with a slash. -/
theorem slash_notMem_encode (text : List Char) : '/' ∉ encode text := by
  intro member
  obtain ⟨c, _, within⟩ := List.mem_flatMap.mp member
  exact slash_notMem_encodeCharacter c within

/-- Nothing is dropped from a text without a slash. -/
theorem afterLastSlash_of_notMem (slashless : '/' ∉ text) : afterLastSlash text = text := by
  have whole : text.reverse.takeWhile (· ≠ '/') = text.reverse := by
    rw [List.takeWhile_eq_self_iff]
    intro c member
    exact decide_eq_true fun slash => slashless (slash ▸ List.mem_reverse.mp member)
  rw [afterLastSlash, whole, List.reverse_reverse]

/-- A start within the document has a hash in front and a slash at its end. -/
theorem exists_between (within : start.toList.head? = some '#')
    (ended : start.toList.getLast? = some '/') :
    ∃ between, start.toList = '#' :: between ++ ['/'] := by
  obtain ⟨before, split⟩ := List.getLast?_eq_some_iff.mp ended
  rw [split] at within
  cases before with
  | nil => cases within
  | cons first between =>
    cases within
    exact ⟨between, split⟩

/-- **A reference ends in the name for which it is written.** -/
theorem name?_ofName (within : start.toList.head? = some '#')
    (ended : start.toList.getLast? = some '/') (something : name ≠ "") :
    name? (ofName start name) = some name := by
  obtain ⟨between, split⟩ := exists_between within ended
  have written : (ofName start name).toList = '#' :: between ++ '/' :: encode name.toList := by
    rw [ofName, String.toList_append, split, String.toList_ofList, List.append_assoc,
      List.singleton_append]
  have named : (name.toList).isEmpty = false := by
    rw [List.isEmpty_eq_false_iff]
    exact fun empty => something (String.toList_inj.mp empty)
  rw [name?, written, componentName?_append, afterLastSlash_of_notMem (slash_notMem_encode _),
    decode_encode, named]
  exact congrArg some String.ofList_toList

end Reference

namespace ContractParameter

variable {entry : ContractParameter} {start name : String}

/-- **Every component can be referred to.** A reference that is written for a name ends in it. It
leads to the component of that name: to the component itself when it has a name of its own, and
otherwise to the component under the name of the reference. It leads nowhere when no component
has the name, or when the one that has it is a reference. -/
theorem resolve_ofName (components : Components) (within : start.toList.head? = some '#')
    (ended : start.toList.getLast? = some '/') (something : name ≠ "")
    (written : entry.ref = some (Reference.ofName start name)) :
    Reference.name? (Reference.ofName start name) = some name ∧
      (∀ target own, components.lookup name = some target → target.ref = none →
        target.name = some own → own ≠ "" → entry.resolve components = .ok target) ∧
      (∀ target, components.lookup name = some target → target.ref = none →
        (target.name = none ∨ target.name = some "") →
          entry.resolve components = .ok { target with name := some name }) ∧
      ((∀ target, components.lookup name = some target → target.ref ≠ none) →
        entry.resolve components = .error (Reference.ofName start name)) := by
  have named := Reference.name?_ofName within ended something
  refine ⟨named, ?_, ?_, ?_⟩
  · intro target own found plain ownName nonempty
    have chosen : target.name.filter (· ≠ "") = some own := by
      rw [ownName, Option.filter_some, if_pos (decide_eq_true nonempty)]
    rw [resolve_of_plain written named found plain, chosen, Option.getD_some, ← ownName]
  · intro target found plain nameless
    have chosen : target.name.filter (· ≠ "") = none := by
      rcases nameless with absent | empty
      · rw [absent, Option.filter_none]
      · rw [empty]
        rfl
    rw [resolve_of_plain written named found plain, chosen, Option.getD_none]
  · intro unresolvable
    cases found : components.lookup name with
    | none => exact resolve_of_lookup_eq_none written named found
    | some target =>
      have refers : target.ref.isSome := Option.isSome_iff_ne_none.mpr (unresolvable target found)
      rw [resolve_of_lookup written named found, if_pos refers]

/-- Components whose names are made of the marks of pointers: one without a name of its own, one
with another name, and a reference. -/
def markedComponents : Components :=
  [("a/b~01", { location := some "query", required := true }),
    ("#/~", { name := some "own", schema := some { type := some "integer" } }),
    ("~1", { ref := some "#/components/parameters/own" })]

/-- The reference to a name among the components of a contract. -/
def referenceTo (name : String) : ContractParameter where
  ref := some (Reference.ofName "#/components/parameters/" name)

/-- References to the three lead to the first under the name of the reference, to the second as it
is, and nowhere. -/
theorem resolve_ofName_marked :
    "#/components/parameters/".toList.head? = some '#' ∧
      "#/components/parameters/".toList.getLast? = some '/' ∧
      (referenceTo "a/b~01").ref = some "#/components/parameters/a~1b~001" ∧
      (referenceTo "a/b~01").resolve markedComponents =
        .ok { name := some "a/b~01", location := some "query", required := true } ∧
      (referenceTo "#/~").resolve markedComponents =
        .ok { name := some "own", schema := some { type := some "integer" } } ∧
      (referenceTo "~1").resolve markedComponents = .error "#/components/parameters/~01" := by
  have within : "#/components/parameters/".toList.head? = some '#' := by decide
  have ended : "#/components/parameters/".toList.getLast? = some '/' := by decide
  have written : ∀ name, (referenceTo name).ref =
      some (Reference.ofName "#/components/parameters/" name) := fun _ => rfl
  obtain ⟨_, _, nameless, _⟩ :=
    resolve_ofName markedComponents within ended (by decide) (written "a/b~01")
  obtain ⟨_, named, _⟩ :=
    resolve_ofName markedComponents within ended (by decide) (written "#/~")
  obtain ⟨_, _, _, nowhere⟩ :=
    resolve_ofName markedComponents within ended (by decide) (written "~1")
  have refers : ∀ target, markedComponents.lookup "~1" = some target → target.ref ≠ none := by
    rintro target ⟨⟩
    decide
  refine ⟨within, ended, by decide +kernel, ?_, ?_, ?_⟩
  · exact nameless _ rfl rfl (.inl rfl)
  · exact named _ "own" rfl rfl rfl (by decide)
  · rw [nowhere refers]
    decide +kernel

end ContractParameter

end ParameterDrift
