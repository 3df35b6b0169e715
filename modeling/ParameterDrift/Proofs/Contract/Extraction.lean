import ParameterDrift.Proofs.Contract.Override
import ParameterDrift.Proofs.Raw.Entries
/-! # One operation for each place

The operations of a contract and the places of its document correspond one to one and in order, and
a place is nothing but a mapping under a method in a mapping under a path. Where the parameters of a
path stand among the entries of its item makes no difference, since they are read before any
operation. And an operation takes its parameters from the two lists that are written at its place
and from nothing else in the document (`ParameterDrift.Contract.extracts_of_ofRaw`).
-/

namespace ParameterDrift

/-! ### What the places are -/

namespace OperationPlace

variable {place other : OperationPlace} {entry : Scalar × Raw}

/-- A document has a place when a mapping stands under a method in a mapping under a path. -/
def StandsIn (place : OperationPlace) (document : Raw) : Prop :=
  ∃ entries paths, document = .mapping entries ∧
    Raw.lookup "paths" entries = some (.mapping paths) ∧
    (place.path, .mapping place.item) ∈ paths ∧
    (.text place.key, .mapping place.entries) ∈ place.item ∧
    Text.lowerString place.key ∈ Operation.methods

/-- The same lists of parameters are written at two places. -/
def ListsAlike (place other : OperationPlace) : Prop :=
  Raw.lookup "parameters" other.item = Raw.lookup "parameters" place.item ∧
    Raw.lookup "parameters" other.entries = Raw.lookup "parameters" place.entries

/-- An entry of a path item is a place when it is a mapping under a method. -/
theorem underEntry_eq_some_iff {path : Scalar} {item : List (Scalar × Raw)} :
    underEntry path item entry = some place ↔
      place.path = path ∧ place.item = item ∧ entry = (.text place.key, .mapping place.entries) ∧
        Text.lowerString place.key ∈ Operation.methods := by
  constructor
  · intro found
    unfold underEntry at found
    split at found
    · split at found
      · next isMethod =>
        cases found
        exact ⟨rfl, rfl, rfl, List.contains_iff_mem.mp isMethod⟩
      · cases found
    · cases found
  · intro given
    obtain ⟨rfl, rfl, rfl, isMethod⟩ := given
    rw [underEntry, if_pos (List.contains_iff_mem.mpr isMethod)]

/-- The places of a path are the mappings under a method in its item. -/
theorem mem_ofPath_iff : place ∈ ofPath entry ↔
    entry = (place.path, .mapping place.item) ∧
      (.text place.key, .mapping place.entries) ∈ place.item ∧
      Text.lowerString place.key ∈ Operation.methods := by
  obtain ⟨path, value⟩ := entry
  cases value with
  | mapping item =>
    rw [ofPath, List.mem_filterMap]
    constructor
    · intro found
      obtain ⟨entry, member, standing⟩ := found
      obtain ⟨rfl, rfl, rfl, isMethod⟩ := underEntry_eq_some_iff.mp standing
      exact ⟨rfl, member, isMethod⟩
    · intro given
      obtain ⟨same, member, isMethod⟩ := given
      cases same
      exact ⟨_, member, underEntry_eq_some_iff.mpr ⟨rfl, rfl, rfl, isMethod⟩⟩
  | _ => exact iff_of_false List.not_mem_nil fun given => by cases given.1

/-- **Where operations stand.** -/
theorem mem_ofDocument_iff {document : Raw} :
    place ∈ ofDocument document ↔ place.StandsIn document := by
  cases document with
  | mapping entries =>
    constructor
    · intro member
      rw [ofDocument] at member
      cases shown : Raw.lookupTruthy "paths" entries with
      | none =>
        rw [shown] at member
        cases member
      | some value =>
        rw [shown, Option.map_some, Option.getD_some] at member
        cases value with
        | mapping paths =>
          obtain ⟨entry, among, standing⟩ := List.mem_flatMap.mp member
          obtain ⟨rfl, inItem, isMethod⟩ := mem_ofPath_iff.mp standing
          exact ⟨entries, paths, rfl, Raw.lookup_of_lookupTruthy shown, among, inItem, isMethod⟩
        | _ => cases member
    · intro given
      obtain ⟨_, paths, same, found, among, inItem, isMethod⟩ := given
      cases same
      have shown : Raw.lookupTruthy "paths" entries = some (.mapping paths) := by
        apply Raw.lookupTruthy_of_lookup found
        cases paths with
        | nil => cases among
        | cons first rest => rfl
      rw [ofDocument, shown, Option.map_some, Option.getD_some, ofPaths, List.mem_flatMap]
      exact ⟨_, among, mem_ofPath_iff.mpr ⟨rfl, inItem, isMethod⟩⟩
  | _ =>
    apply iff_of_false List.not_mem_nil
    intro given
    obtain ⟨_, _, same, _⟩ := given
    cases same

end OperationPlace

/-! ### Where the parameters of a path stand -/

/-- Entries that differ at most in where the parameters stand among them. -/
def Raw.MovesParameters (entries others : List (Scalar × Raw)) : Prop :=
  Raw.without "parameters" others = Raw.without "parameters" entries ∧
    Raw.lookup "parameters" others = Raw.lookup "parameters" entries

/-- Entries of the paths that differ at most in where the parameters of an item stand. -/
inductive Raw.MovesInItem : Scalar × Raw → Scalar × Raw → Prop
  | moved {path : Scalar} {item others : List (Scalar × Raw)} :
    Raw.MovesParameters item others → MovesInItem (path, .mapping item) (path, .mapping others)
  | same (entry : Scalar × Raw) : MovesInItem entry entry

/-- Reading items one by one, the first comes first among what is found. -/
theorem Outcome.mapM_cons_filterMap {ε α β : Type} (read : α → Except ε (Option β)) (item : α)
    (rest : List α) :
    ((item :: rest).mapM read).map (List.filterMap id) = (do
      let found ← read item
      ((rest.mapM read).map (List.filterMap id)).map (found.toList ++ ·)) := by
  rw [List.mapM_cons]
  cases read item with
  | error fault => rfl
  | ok found =>
    cases rest.mapM read with
    | error fault => rfl
    | ok others =>
      cases found with
      | none => rfl
      | some value => rfl

/-- What is read to nothing may be left out before. -/
theorem Outcome.mapM_filter_of_none {ε α β : Type} {read : α → Except ε (Option β)}
    {kept : α → Bool} {items : List α}
    (silent : ∀ item ∈ items, kept item = false → read item = .ok none) :
    ((items.filter kept).mapM read).map (List.filterMap id) =
      (items.mapM read).map (List.filterMap id) := by
  induction items with
  | nil => rfl
  | cons item rest ih =>
    have later := ih fun other member => silent other (List.mem_cons_of_mem item member)
    cases isKept : kept item with
    | false =>
      have dropped : ¬ kept item = true := ne_true_of_eq_false isKept
      rw [List.filter_cons_of_neg dropped, later, mapM_cons_filterMap,
        silent item List.mem_cons_self isKept]
      cases (rest.mapM read).map (List.filterMap id) with
      | error fault => rfl
      | ok values => rfl
    | true => rw [List.filter_cons_of_pos isKept, mapM_cons_filterMap, mapM_cons_filterMap, later]

/-- The parameters of a path or an operation are read from what is written under their name. -/
theorem ContractParameter.readListed_congr {entries others : List (Scalar × Raw)}
    (same : Raw.lookup "parameters" others = Raw.lookup "parameters" entries) :
    readListed others = readListed entries := by
  rw [readListed, readListed, Raw.lookupTruthy_congr same]

namespace Operation

/-- The list of parameters is no operation. -/
theorem readEntry_parameters (path : Scalar) (shared : List ContractParameter) (value : Raw) :
    readEntry path shared (.text "parameters", value) = .ok none := by
  have noMethod : methods.contains (Text.lowerString "parameters") = false := by decide +kernel
  cases value with
  | mapping entries => simp only [readEntry, noMethod, Bool.false_eq_true, ↓reduceIte]
  | _ => rfl

/-- The operations of a path item are read with its shared parameters. -/
theorem readPath_mapping (path : Scalar) (item : List (Scalar × Raw)) :
    readPath (path, .mapping item) = (do
      let shared ← ContractParameter.readListed item
      (item.mapM (readEntry path shared)).map (List.filterMap id)) := by
  rw [readPath]
  cases ContractParameter.readListed item with
  | error fault => rfl
  | ok shared =>
    change (item.mapM (readEntry path shared) >>= fun found => .ok (found.filterMap id)) =
      (item.mapM (readEntry path shared)).map (List.filterMap id)
    cases item.mapM (readEntry path shared) with
    | error fault => rfl
    | ok found => rfl

/-- The position of the shared parameters in the item does not matter. -/
theorem readPath_eq_of_movesInItem {entry other : Scalar × Raw}
    (moves : Raw.MovesInItem entry other) : readPath other = readPath entry := by
  cases moves with
  | same => rfl
  | @moved path item others moves =>
    obtain ⟨rest, listed⟩ := moves
    rw [readPath_mapping, readPath_mapping, ContractParameter.readListed_congr listed]
    cases ContractParameter.readListed item with
    | error fault => rfl
    | ok shared =>
      -- what is left out before the methods are looked for is the list of parameters
      have left_out : ∀ entries : List (Scalar × Raw),
          ((Raw.without "parameters" entries).mapM (readEntry path shared)).map
              (List.filterMap id) =
            (entries.mapM (readEntry path shared)).map (List.filterMap id) := by
        intro entries
        apply Outcome.mapM_filter_of_none
        intro entry _ dropped
        obtain ⟨key, value⟩ := entry
        have named : key = .text "parameters" := by simpa using dropped
        rw [named]
        exact readEntry_parameters path shared value
      change (others.mapM (readEntry path shared)).map (List.filterMap id) =
        (item.mapM (readEntry path shared)).map (List.filterMap id)
      rw [← left_out others, ← left_out item, rest]

end Operation

namespace Contract

variable {entries others : List (Scalar × Raw)}

/-- Beside the operations, a contract is read from what is not under the name of the paths. -/
theorem ofEntries_congr (operations : Operation.readPaths others = Operation.readPaths entries)
    (same : ∀ name, name ≠ "paths" → Raw.lookup name others = Raw.lookup name entries) :
    ofEntries others = ofEntries entries := by
  have info : readInfo others = readInfo entries := readInfo_congr (same "info" (by decide))
  have top : Components.tableEntries others = Components.tableEntries entries :=
    Components.tableEntries_congr (same "parameters" (by decide))
  have nested : Components.nestedEntries others = Components.nestedEntries entries := by
    rw [Components.nestedEntries, Components.nestedEntries,
      Raw.lookupTruthy_congr (same "components" (by decide))]
  have components : Components.read others = Components.read entries := by
    rw [Components.read, Components.read, Components.entries_eq, Components.entries_eq, top, nested]
  rw [ofEntries, ofEntries, operations, info, components]

/-- Where parameters stand in the items of the paths makes no difference. -/
theorem ofRaw_movesParameters {paths moved : List (Scalar × Raw)}
    (found : Raw.lookup "paths" entries = some (.mapping paths))
    (moves : List.Forall₂ Raw.MovesInItem paths moved) :
    ofRaw (.mapping (Raw.changeField "paths" (fun _ => .mapping moved) entries)) =
      ofRaw (.mapping entries) := by
  rw [ofRaw_mapping, ofRaw_mapping]
  have each : moved.mapM Operation.readPath = paths.mapM Operation.readPath :=
    Outcome.mapM_congr_of_forall₂ (moves.imp fun _ _ => Operation.readPath_eq_of_movesInItem)
  refine ofEntries_congr ?_ fun name other => Raw.lookup_changeField_of_ne _ other entries
  rw [Operation.readPaths, Operation.readPaths, Raw.lookupTruthy, Raw.lookupTruthy,
    Raw.lookup_changeField_self, found]
  cases moves with
  | nil => rfl
  | @cons first other rest later firstMoves restMoves =>
    change (((other :: later).mapM Operation.readPath) >>= fun operations =>
        .ok operations.flatten) =
      (((first :: rest).mapM Operation.readPath) >>= fun operations => .ok operations.flatten)
    rw [each]

/-- **What the operations of a contract are made of.** -/
structure Extracts (document : Raw) (contract : Contract) : Prop where
  /-- There is one operation for each place, in order, made of the path, the key and the two lists
  of parameters at the place. -/
  each : List.Forall₂ OperationPlace.Holds (OperationPlace.ofDocument document)
    contract.operations
  /-- Nothing is a place but a mapping under a method in a mapping under a path. -/
  places : ∀ place, place ∈ OperationPlace.ofDocument document ↔ place.StandsIn document
  /-- Where the parameters stand in the item of a path makes no difference. -/
  moved : ∀ entries paths others, document = .mapping entries →
    Raw.lookup "paths" entries = some (.mapping paths) →
    List.Forall₂ Raw.MovesInItem paths others →
    ofRaw (.mapping (Raw.changeField "paths" (fun _ => .mapping others) entries)) = .ok contract
  /-- Operations of any two documents at whose places the same lists are written have the same
  parameters. -/
  apart : ∀ other otherContract, ofRaw other = .ok otherContract →
    ∀ place operation otherPlace otherOperation,
      (place, operation) ∈ (OperationPlace.ofDocument document).zip contract.operations →
      (otherPlace, otherOperation) ∈
        (OperationPlace.ofDocument other).zip otherContract.operations →
      place.ListsAlike otherPlace → otherOperation.parameters = operation.parameters


/-- **The operations of a document.** -/
theorem extracts_of_ofRaw {document : Raw} {contract : Contract}
    (read : ofRaw document = .ok contract) : Extracts document contract := by
  have each := forall₂_places_of_ofRaw read
  refine ⟨each, fun place => OperationPlace.mem_ofDocument_iff, ?_, ?_⟩
  · intro entries paths others same found moves
    rw [ofRaw_movesParameters found moves, ← same, read]
  · intro other otherContract otherRead place operation otherPlace otherOperation member
      otherMember alike
    obtain ⟨shared, own, ⟨sharedRead, ownRead⟩, merged⟩ := (List.forall₂_zip each member).parameters
    have otherEach := forall₂_places_of_ofRaw otherRead
    obtain ⟨otherShared, otherOwn, ⟨otherSharedRead, otherOwnRead⟩, otherMerged⟩ :=
      (List.forall₂_zip otherEach otherMember).parameters
    rw [ContractParameter.readListed_congr alike.1, sharedRead] at otherSharedRead
    rw [ContractParameter.readListed_congr alike.2, ownRead] at otherOwnRead
    rw [merged, otherMerged, Except.ok.inj otherSharedRead, Except.ok.inj otherOwnRead]

/-! ### A document of several paths -/

/-- Two paths with parameters of their own, the entries of the first in a given order, and what is
no operation between them. -/
def storeDocument (pets : List (String × Raw)) : Raw :=
  .ofFields [("paths", .ofFields
    [("/pets", .ofFields pets), ("x-later", .list []),
    ("/orders/\x7bid\x7d", .ofFields
      [("parameters", .list [queryParameter "id" "string"]), ("delete", .ofFields []),
      ("head", .text "none")])])]

/-- The list of pets is read, with a parameter that the path has too. -/
def listPets : String × Raw :=
  ("GET", .ofFields [("parameters", .list [queryParameter "page" "string"])])

/-- A pet is added. -/
def addPet : String × Raw :=
  ("post", .ofFields [])

/-- A server of the path, which is no method. -/
def petServer : String × Raw :=
  ("servers", .ofFields [("parameters", .list [queryParameter "port" "integer"])])

/-- The parameters of the path. -/
def petParameters : String × Raw :=
  ("parameters", .list [queryParameter "page" "integer", queryParameter "limit" "integer"])

/-- What the document is read as. -/
def storeContract : Contract where
  operations :=
    [{ method := "get", path := "/pets",
       parameters := [queryEntry "page" "string", queryEntry "limit" "integer"] },
    { method := "post", path := "/pets",
      parameters := [queryEntry "page" "integer", queryEntry "limit" "integer"] },
    { method := "delete", path := "/orders/\x7bid\x7d", parameters := [queryEntry "id" "string"] }]

/-- The parameters of a path may stand before its operations, between them or after them. -/
theorem extracts_store :
    ofRaw (storeDocument [listPets, petServer, petParameters, addPet]) = .ok storeContract ∧
    (OperationPlace.ofDocument (storeDocument [listPets, petServer, petParameters, addPet])).map
      (fun place => (place.path, place.key)) =
        [(.text "/pets", "GET"), (.text "/pets", "post"),
        (.text "/orders/\x7bid\x7d", "delete")] ∧
    Extracts (storeDocument [listPets, petServer, petParameters, addPet]) storeContract ∧
    ofRaw (storeDocument [petParameters, listPets, petServer, addPet]) = .ok storeContract ∧
    ofRaw (storeDocument [listPets, petServer, addPet, petParameters]) = .ok storeContract := by
  have read : ofRaw (storeDocument [listPets, petServer, petParameters, addPet]) =
      .ok storeContract := by decide +kernel
  have extracts := extracts_of_ofRaw read
  have moved : ∀ pets : List (String × Raw),
      Raw.MovesParameters
        ([listPets, petServer, petParameters, addPet].map fun field => (.text field.1, field.2))
        (pets.map fun field => (.text field.1, field.2)) →
      ofRaw (storeDocument pets) = .ok storeContract := by
    intro pets moves
    exact extracts.moved _ _ _ rfl rfl (.cons (.moved moves) (.cons (.same _) (.cons (.same _) .nil)))
  refine ⟨read, by decide +kernel, extracts, moved _ ?_, moved _ ?_⟩
  · constructor
    · decide +kernel
    · decide +kernel
  · constructor
    · decide +kernel
    · decide +kernel

end Contract

end ParameterDrift
