import Specimen.Proofs.Json.Numerals
import Specimen.Settings.Basic

/-! Which values are settings (`settings?`): the fields of a record are known ones and none is there twice, and what
is missing keeps its default. The order of the fields does not matter (`storeMembers_eq`). -/
namespace Specimen.Settings
open Json

variable {α σ : Type}

/-! ### What a field may be -/

def text? : Tree → Option String
  | .string value => some value
  | _ => none

def optionalText? : Tree → Option (Option String)
  | .null => some none
  | .string value => some (some value)
  | _ => none

def flag? : Tree → Option Bool
  | .bool value => some value
  | _ => none

/-- A count is written by digits alone, and fits 64 bits. -/
def count? : Tree → Option Nat
  | .number literal =>
    if literal.all isDigitByte ∧ valueFrom 0 literal < twoTo 64 then some (valueFrom 0 literal) else none
  | _ => none

def texts? : Tree → Option (List String)
  | .array items => items.mapM text?
  | _ => none

/-! ### Records -/

/-- The fields that a record is given with. All of them have to be known, and none may be there twice. An array gives
the first of the fields in order. -/
def givenFields? (names : List String) : Tree → Option (List (String × Tree))
  | .object members =>
    if (∀ member ∈ members, member.1 ∈ names) ∧ (members.map Prod.fst).Nodup then some members else none
  | .array items => if items.length ≤ names.length then some (names.zip items) else none
  | _ => none

/-- What a field is given as, or else its default. -/
def fieldOr (default : α) (decode : Tree → Option α) (name : String) (given : List (String × Tree)) : Option α :=
  match given.lookup name with
  | some tree => decode tree
  | none => some default

def dictionaryPolicy? (tree : Tree) : Option DictionaryPolicy := do
  let default : DictionaryPolicy := {}
  let given ← givenFields? ["enabled", "max_fields", "identifier_keys"] tree
  return {
    enabled := ← fieldOr default.enabled flag? "enabled" given
    maxFields := ← fieldOr default.maxFields count? "max_fields" given
    identifierKeys := ← fieldOr default.identifierKeys flag? "identifier_keys" given }

def settings? (tree : Tree) : Option Settings := do
  let default : Settings := {}
  let given ← givenFields? ["root_name", "namespace", "secondary_namespace", "internal_visibility", "use_properties",
    "examples_in_documentation", "example_limit", "date_formats", "dictionaries"] tree
  return {
    rootName := ← fieldOr default.rootName text? "root_name" given
    mainNamespace := ← fieldOr default.mainNamespace optionalText? "namespace" given
    secondaryNamespace := ← fieldOr default.secondaryNamespace optionalText? "secondary_namespace" given
    internalVisibility := ← fieldOr default.internalVisibility flag? "internal_visibility" given
    useProperties := ← fieldOr default.useProperties flag? "use_properties" given
    examplesInDocumentation := ← fieldOr default.examplesInDocumentation flag? "examples_in_documentation" given
    exampleLimit := ← fieldOr default.exampleLimit count? "example_limit" given
    dateFormats := ← fieldOr default.dateFormats texts? "date_formats" given
    dictionaries := ← fieldOr default.dictionaries dictionaryPolicy? "dictionaries" given }

/-! ### Storing one field after another -/

/-- What a field may be given as, and what that makes of a record. -/
structure Entry (σ : Type) where
  name : String
  decode : Tree → Option (σ → σ)

def Entry.of (name : String) (decode : Tree → Option α) (store : α → σ → σ) : Entry σ where
  name
  decode tree := (decode tree).map store

/-- What the given fields make of a record by the one entry. -/
def Entry.store? (entry : Entry σ) (given : List (String × Tree)) : Option (σ → σ) :=
  match given.lookup entry.name with
  | some tree => entry.decode tree
  | none => some id

/-- Stores the given fields in the order of the entries. -/
def storeGiven (given : List (String × Tree)) : List (Entry σ) → σ → Option σ
  | [], record => some record
  | entry :: entries, record => do
    let store ← entry.store? given
    storeGiven given entries (store record)

/-- Stores the members in their own order. -/
def storeMembers (entries : List (Entry σ)) : List (String × Tree) → σ → Option σ
  | [], record => some record
  | (key, tree) :: members, record => do
    let entry ← entries.find? (·.name == key)
    let store ← entry.decode tree
    storeMembers entries members (store record)

/-- Stores the items by the entries in order. -/
def storeItems : List (Entry σ) → List Tree → σ → Option σ
  | _, [], record => some record
  | [], _ :: _, _ => none
  | entry :: entries, tree :: items, record => do
    let store ← entry.decode tree
    storeItems entries items (store record)

/-- What a value makes of a record. -/
def record? (entries : List (Entry σ)) (default : σ) (tree : Tree) : Option σ := do
  storeGiven (← givenFields? (entries.map Entry.name) tree) entries default

def dictionaryEntries : List (Entry DictionaryPolicy) :=
  [.of "enabled" flag? fun enabled p => { p with enabled },
   .of "max_fields" count? fun maxFields p => { p with maxFields },
   .of "identifier_keys" flag? fun identifierKeys p => { p with identifierKeys }]

def settingsEntries : List (Entry Settings) :=
  [.of "root_name" text? fun rootName s => { s with rootName },
   .of "namespace" optionalText? fun mainNamespace s => { s with mainNamespace },
   .of "secondary_namespace" optionalText? fun secondaryNamespace s => { s with secondaryNamespace },
   .of "internal_visibility" flag? fun internalVisibility s => { s with internalVisibility },
   .of "use_properties" flag? fun useProperties s => { s with useProperties },
   .of "examples_in_documentation" flag? fun examplesInDocumentation s => { s with examplesInDocumentation },
   .of "example_limit" count? fun exampleLimit s => { s with exampleLimit },
   .of "date_formats" texts? fun dateFormats s => { s with dateFormats },
   .of "dictionaries" dictionaryPolicy? fun dictionaries s => { s with dictionaries }]

theorem storeGiven_of (given : List (String × Tree)) (name : String) (decode : Tree → Option α)
    (store : α → σ → σ) (entries : List (Entry σ)) (record : σ) {value : α} (hvalue : store value record = record) :
    storeGiven given (.of name decode store :: entries) record =
      fieldOr value decode name given >>= fun value => storeGiven given entries (store value record) := by
  simp only [storeGiven, Entry.store?, Entry.of, fieldOr]
  cases given.lookup name with
  | none => exact congrArg (storeGiven given entries) hvalue.symm
  | some tree => exact Option.bind_map ..

theorem record?_dictionaryEntries (tree : Tree) : record? dictionaryEntries {} tree = dictionaryPolicy? tree := by
  refine congrArg _ (funext fun given => ?_)
  simp only [dictionaryEntries]
  iterate 3
    rw [storeGiven_of _ _ _ _ _ _ rfl]
    refine congrArg _ (funext fun _ => ?_)
  rfl

theorem record?_settingsEntries (tree : Tree) : record? settingsEntries {} tree = settings? tree := by
  refine congrArg _ (funext fun given => ?_)
  simp only [settingsEntries]
  iterate 9
    rw [storeGiven_of _ _ _ _ _ _ rfl]
    refine congrArg _ (funext fun _ => ?_)
  rfl

/-! ### The order of the fields -/

def Entry.Commute (entry entry' : Entry σ) : Prop :=
  ∀ tree tree' store store', entry.decode tree = some store → entry'.decode tree' = some store' →
    ∀ record, store (store' record) = store' (store record)

theorem commute_of {β : Type} {name name' : String} {decode : Tree → Option α} {decode' : Tree → Option β}
    {store : α → σ → σ} {store' : β → σ → σ}
    (h : ∀ value value' record, store value (store' value' record) = store' value' (store value record)) :
    (Entry.of name decode store).Commute (.of name' decode' store') := by
  intro tree tree' _ _ hstore hstore' record
  obtain ⟨value, -, rfl⟩ := Option.map_eq_some_iff.mp hstore
  obtain ⟨value', -, rfl⟩ := Option.map_eq_some_iff.mp hstore'
  exact h value value' record

structure Independent (entries : List (Entry σ)) : Prop where
  names : (entries.map Entry.name).Nodup
  commute : entries.Pairwise Entry.Commute

theorem independent_dictionaryEntries : Independent dictionaryEntries where
  names := by decide
  commute := by
    simp only [dictionaryEntries, List.pairwise_cons, List.forall_mem_cons]
    repeat' apply And.intro
    all_goals first | exact commute_of fun _ _ _ => rfl | exact List.forall_mem_nil _ | exact .nil

theorem independent_settingsEntries : Independent settingsEntries where
  names := by decide
  commute := by
    simp only [settingsEntries, List.pairwise_cons, List.forall_mem_cons]
    repeat' apply And.intro
    all_goals first | exact commute_of fun _ _ _ => rfl | exact List.forall_mem_nil _ | exact .nil

theorem store?_cons_self (entry : Entry σ) (tree : Tree) (given : List (String × Tree)) :
    entry.store? ((entry.name, tree) :: given) = entry.decode tree := by
  rw [Entry.store?, List.lookup_cons_self]

theorem store?_cons_of_ne {entry : Entry σ} {name : String} (hname : entry.name ≠ name) (tree : Tree)
    (given : List (String × Tree)) : entry.store? ((name, tree) :: given) = entry.store? given := by
  unfold Entry.store?
  rw [List.lookup_cons, beq_eq_false_iff_ne.mpr hname]

theorem store?_of_not_mem {entry : Entry σ} {given : List (String × Tree)}
    (hname : entry.name ∉ given.map Prod.fst) : entry.store? given = some id := by
  have hlookup : given.lookup entry.name = none := by
    refine List.lookup_eq_none_iff.mpr fun member hmember => bne_iff_ne.mpr fun hname' => hname ?_
    exact List.mem_map.mpr ⟨member, hmember, hname'.symm⟩
  rw [Entry.store?, hlookup]

theorem storeGiven_cons_of_not_mem {entries : List (Entry σ)} {name : String}
    (hname : name ∉ entries.map Entry.name) (tree : Tree) (given : List (String × Tree)) (record : σ) :
    storeGiven ((name, tree) :: given) entries record = storeGiven given entries record := by
  induction entries generalizing record with
  | nil => rfl
  | cons entry entries ih =>
    obtain ⟨hne, hname⟩ := List.ne_and_not_mem_of_not_mem_cons hname
    simp only [storeGiven, store?_cons_of_ne (Ne.symm hne), ih hname]

theorem storeGiven_nil (entries : List (Entry σ)) (record : σ) : storeGiven [] entries record = some record := by
  induction entries with
  | nil => rfl
  | cons entry entries ih => exact ih

theorem Independent.tail {entry : Entry σ} {entries : List (Entry σ)} (h : Independent (entry :: entries)) :
    Independent entries :=
  ⟨(List.nodup_cons.mp h.names).2, (List.pairwise_cons.mp h.commute).2⟩

theorem commute_store? {entry entry' : Entry σ} (h : entry.Commute entry') {given : List (String × Tree)}
    {tree' : Tree} {store store' : σ → σ} (hstore : entry.store? given = some store)
    (hstore' : entry'.decode tree' = some store') (record : σ) :
    store (store' record) = store' (store record) := by
  unfold Entry.store? at hstore
  split at hstore
  case h_1 tree _ => exact h tree tree' store store' hstore hstore' record
  case h_2 =>
    obtain rfl := Option.some.inj hstore
    rfl

/-- One more field may be stored before the others. -/
theorem storeGiven_cons {entries : List (Entry σ)} (h : Independent entries) {entry : Entry σ}
    (hentry : entry ∈ entries) {given : List (String × Tree)} (hgiven : entry.name ∉ given.map Prod.fst)
    (tree : Tree) (record : σ) :
    storeGiven ((entry.name, tree) :: given) entries record =
      (entry.decode tree).bind fun store => storeGiven given entries (store record) := by
  induction entries generalizing record with
  | nil => cases hentry
  | cons first entries ih =>
    obtain ⟨hfirst, -⟩ := List.nodup_cons.mp h.names
    simp only [storeGiven, Option.bind_eq_bind]
    -- The field is that of the first entry, or it has to pass by the first entry's.
    rcases List.mem_cons.mp hentry with rfl | hentry
    · simp only [store?_cons_self, store?_of_not_mem hgiven, storeGiven_cons_of_not_mem hfirst]
      rfl
    · have hne : first.name ≠ entry.name := fun hname => hfirst (hname ▸ List.mem_map_of_mem hentry)
      rw [store?_cons_of_ne hne]
      simp only [ih h.tail hentry]
      rw [Option.bind_comm]
      refine Option.bind_congr fun store hstore => Option.bind_congr fun store' hstore' => ?_
      rw [commute_store? ((List.pairwise_cons.mp h.commute).1 entry hentry) hstore' hstore]

theorem exists_find?_entry {entries : List (Entry σ)} {key : String} (h : key ∈ entries.map Entry.name) :
    ∃ entry ∈ entries, entry.name = key ∧ entries.find? (·.name == key) = some entry := by
  obtain ⟨entry, hentry, hname⟩ := List.mem_map.mp h
  have hfind : (entries.find? (·.name == key)).isSome = true :=
    List.find?_isSome.mpr ⟨entry, hentry, beq_iff_eq.mpr hname⟩
  obtain ⟨found, hfound⟩ := Option.isSome_iff_exists.mp hfind
  have hkey := List.find?_some hfound
  exact ⟨found, List.mem_of_find?_eq_some hfound, beq_iff_eq.mp hkey, hfound⟩

/-- An object is stored alike in the order of its members and in that of the fields. -/
theorem storeMembers_eq {entries : List (Entry σ)} (h : Independent entries) {members : List (String × Tree)}
    (hknown : ∀ member ∈ members, member.1 ∈ entries.map Entry.name) (hnodup : (members.map Prod.fst).Nodup)
    (record : σ) : storeMembers entries members record = storeGiven members entries record := by
  induction members generalizing record with
  | nil => exact (storeGiven_nil entries record).symm
  | cons member members ih =>
    obtain ⟨key, tree⟩ := member
    obtain ⟨hkey, hothers⟩ := List.forall_mem_cons.mp hknown
    obtain ⟨hfresh, hrest⟩ := List.nodup_cons.mp hnodup
    obtain ⟨entry, hentry, rfl, hfind⟩ := exists_find?_entry hkey
    rw [storeGiven_cons h hentry hfresh]
    simp only [storeMembers, hfind, ih hothers hrest]
    rfl

/-- An array gives the first fields. -/
theorem storeItems_eq {entries : List (Entry σ)} (hnames : (entries.map Entry.name).Nodup) {items : List Tree}
    (hlength : items.length ≤ entries.length) (record : σ) :
    storeItems entries items record = storeGiven ((entries.map Entry.name).zip items) entries record := by
  induction entries generalizing items record with
  | nil =>
    obtain rfl := List.length_eq_zero_iff.mp (Nat.le_zero.mp hlength)
    rfl
  | cons entry entries ih =>
    obtain ⟨hentry, hnames⟩ := List.nodup_cons.mp hnames
    cases items with
    | nil => exact (storeGiven_nil (entry :: entries) record).symm
    | cons tree items =>
      simp only [storeItems, List.map_cons, List.zip_cons_cons, storeGiven, store?_cons_self,
        storeGiven_cons_of_not_mem hentry, ih hnames (Nat.le_of_succ_le_succ hlength)]

theorem length_le_of_storeItems {entries : List (Entry σ)} {items : List Tree} {record value : σ}
    (h : storeItems entries items record = some value) : items.length ≤ entries.length := by
  induction entries generalizing items record with
  | nil =>
    cases items with
    | nil => exact Nat.le_refl _
    | cons tree items => cases h
  | cons entry entries ih =>
    cases items with
    | nil => exact Nat.zero_le _
    | cons tree items =>
      obtain ⟨store, -, h⟩ := Option.bind_eq_some_iff.mp h
      exact Nat.succ_le_succ (ih h)

theorem mem_names_of_storeMembers {entries : List (Entry σ)} {members : List (String × Tree)} {record value : σ}
    (h : storeMembers entries members record = some value) :
    ∀ member ∈ members, member.1 ∈ entries.map Entry.name := by
  induction members generalizing record with
  | nil => exact List.forall_mem_nil _
  | cons member members ih =>
    obtain ⟨entry, hentry, h⟩ := Option.bind_eq_some_iff.mp h
    obtain ⟨store, -, h⟩ := Option.bind_eq_some_iff.mp h
    have hname := List.find?_some hentry
    refine List.forall_mem_cons.mpr ⟨?_, ih h⟩
    exact List.mem_map.mpr ⟨entry, List.mem_of_find?_eq_some hentry, beq_iff_eq.mp hname⟩

theorem record?_object_eq_some_iff {entries : List (Entry σ)} (h : Independent entries)
    {members : List (String × Tree)} {default value : σ} :
    record? entries default (.object members) = some value ↔
      (members.map Prod.fst).Nodup ∧ storeMembers entries members default = some value := by
  simp only [record?, givenFields?]
  split_ifs with hgiven
  · rw [storeMembers_eq h hgiven.1 hgiven.2, and_iff_right hgiven.2]
    rfl
  · exact iff_of_false nofun fun ⟨hnodup, hmembers⟩ => hgiven ⟨mem_names_of_storeMembers hmembers, hnodup⟩

theorem record?_array_eq_some_iff {entries : List (Entry σ)} (h : Independent entries) {items : List Tree}
    {default value : σ} :
    record? entries default (.array items) = some value ↔ storeItems entries items default = some value := by
  simp only [record?, givenFields?, List.length_map]
  split_ifs with hlength
  · rw [storeItems_eq h.names hlength]
    rfl
  · exact iff_of_false nofun fun hitems => hlength (length_le_of_storeItems hitems)

end Specimen.Settings
