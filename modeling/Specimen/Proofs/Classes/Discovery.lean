import Mathlib.Order.Bounds.Basic
import Specimen.Proofs.Classes.Naming

/-! Classes are named in the order in which they are found.

`Discovers` is the walk without fuel, over a stack of leads: a class that is found puts what its fields
lead to in front of what is still to be followed. The walk that gives names finds the same classes in the
same order (`Naming.finds_visit`), and gives each the first spelling that is free
(`freeName_least`). -/
namespace Specimen
open Text

/-! ### The first free spelling -/

/-- What the spellings of a name begin with. -/
def stemName (base : String) : String := if base.isEmpty then fallbackName else base

theorem stemName_ne_empty (base : String) : stemName base ≠ "" := by
  unfold stemName
  split
  case isTrue => decide
  case isFalse h => simpa using h

theorem numbered_ne_empty {base : String} (h : base ≠ "") (n : Nat) : numbered base n ≠ "" := by
  cases n with
  | zero => exact h
  | succ n => simp [numbered, String.append_eq_empty_iff, h]

theorem freeName_least (taken : List String) (base : String) :
    ∃ n, freeName taken base = numbered (stemName base) n ∧
      IsLeast {n | numbered (stemName base) n ∉ taken} n := by
  have hfree := freeName_not_mem taken base
  unfold stemName
  unfold freeName at hfree ⊢
  generalize (if base.isEmpty then fallbackName else base) = base at hfree ⊢
  dsimp only at hfree ⊢
  split at hfree
  case h_1 n hn =>
    refine ⟨n, rfl, hfree, fun m hm => Nat.le_of_not_lt fun hlt => ?_⟩
    have htaken := (List.find?_range_eq_some.mp hn).2.2 m hlt
    exact hm (by simpa using htaken)
  case h_2 => exact ⟨0, rfl, hfree, fun m _ => Nat.zero_le m⟩

theorem freeName_ne_empty (taken : List String) (base : String) : freeName taken base ≠ "" := by
  obtain ⟨n, hname, _⟩ := freeName_least taken base
  exact hname ▸ numbered_ne_empty (stemName_ne_empty base) n

/-! ### The walk over a stack of leads -/

/-- A type that may lead to a class, with the key of the field that it is the type of. The root is the type of
no field. -/
structure Lead where
  key : Option String
  type : Evidence ClassId

/-- A class that was found, and what it is named after. -/
structure Discovery where
  id : ClassId
  base : String

def Evidence.isContainer {O : Type} : Evidence O → Bool
  | .array _ _ => true
  | .dictionary _ _ => true
  | _ => false

/-- What a class is named after: the settings, or the key of a field, in the singular if there are arrays or
dictionaries between the field and the class. -/
def Lead.base (rootName : String) (lead : Lead) : String :=
  match lead.key with
  | none => rootName
  | some key => if lead.type.isContainer then singularize (pascalCase key) else pascalCase key

def ClassTable.leads (t : ClassTable) (c : ClassId) : List Lead :=
  (t.fieldsOf c).map fun f => ⟨some f.name, f.type⟩

/-- The classes found along a list of leads, in order, when those in the second list are known. -/
inductive Discovers (t : ClassTable) (rootName : String) :
    List Lead → List ClassId → List Discovery → Prop where
  | nil {known} : Discovers t rootName [] known []
  | leaf {lead pending known found} (h : lead.type.innermost? = none)
    (hrest : Discovers t rootName pending known found) :
    Discovers t rootName (lead :: pending) known found
  | known {lead pending known found c} (h : lead.type.innermost? = some c) (hc : c ∈ known)
    (hrest : Discovers t rootName pending known found) :
    Discovers t rootName (lead :: pending) known found
  | enter {lead pending known found c} (h : lead.type.innermost? = some c) (hc : c ∉ known)
    (hrest : Discovers t rootName (t.leads c ++ pending) (known ++ [c]) found) :
    Discovers t rootName (lead :: pending) known (⟨c, lead.base rootName⟩ :: found)

/-- The walk ends in one way. -/
theorem Discovers.unique {t : ClassTable} {rootName : String} {leads : List Lead}
    {known : List ClassId} {found found' : List Discovery} (h : Discovers t rootName leads known found)
    (h' : Discovers t rootName leads known found') : found = found' := by
  induction h generalizing found' with
  | nil => cases h'; rfl
  | leaf h _ ih =>
    cases h' with
    | leaf _ hrest => exact ih hrest
    | known h' => cases h.symm.trans h'
    | enter h' => cases h.symm.trans h'
  | known h hc _ ih =>
    cases h' with
    | leaf h' => cases h.symm.trans h'
    | known _ _ hrest => exact ih hrest
    | enter h' hc' => cases h.symm.trans h'; exact absurd hc hc'
  | enter h hc _ ih =>
    cases h' with
    | leaf h' => cases h.symm.trans h'
    | known h' hc' => cases h.symm.trans h'; exact absurd hc' hc
    | enter h' _ hrest => cases h.symm.trans h'; rw [ih hrest]

/-- A class is found along a lead that is there at the start, or along one of a class that is found. -/
theorem Discovers.exists_lead {t : ClassTable} {rootName : String} {leads : List Lead}
    {known : List ClassId} {found : List Discovery} (h : Discovers t rootName leads known found)
    {d : Discovery} (hd : d ∈ found) :
    ∃ lead, (lead ∈ leads ∨ ∃ b ∈ found, lead ∈ t.leads b.id) ∧ lead.type.innermost? = some d.id ∧
      d.base = lead.base rootName := by
  induction h with
  | nil => cases hd
  | leaf _ _ ih =>
    obtain ⟨lead, hlead, hfound⟩ := ih hd
    exact ⟨lead, hlead.imp_left (List.mem_cons_of_mem _), hfound⟩
  | known _ _ _ ih =>
    obtain ⟨lead, hlead, hfound⟩ := ih hd
    exact ⟨lead, hlead.imp_left (List.mem_cons_of_mem _), hfound⟩
  | enter h _ _ ih =>
    rcases List.mem_cons.mp hd with rfl | hd
    · exact ⟨_, .inl List.mem_cons_self, h, rfl⟩
    · obtain ⟨lead, hlead, hfound⟩ := ih hd
      refine ⟨lead, ?_, hfound⟩
      rcases hlead with hlead | ⟨b, hb, hlead⟩
      · rcases List.mem_append.mp hlead with hlead | hlead
        · exact .inr ⟨_, List.mem_cons_self, hlead⟩
        · exact .inl (List.mem_cons_of_mem _ hlead)
      · exact .inr ⟨b, List.mem_cons_of_mem _ hb, hlead⟩

/-! ### Names for what was found -/

namespace Naming
variable {t : ClassTable} {rootName : String}

/-- Gives each class that was found the first free spelling. -/
def giveAll (given : Naming) (found : List Discovery) : Naming :=
  found.foldl (fun given d => given ++ [(d.id, freeName given.taken d.base)]) given

theorem giveAll_append (given : Naming) (found later : List Discovery) :
    giveAll given (found ++ later) = giveAll (giveAll given found) later :=
  List.foldl_append

theorem ids_giveAll (given : Naming) (found : List Discovery) :
    (giveAll given found).map Prod.fst = given.map Prod.fst ++ found.map Discovery.id := by
  induction found generalizing given with
  | nil => simp [giveAll]
  | cons d found ih =>
    rw [giveAll, List.foldl_cons, ← giveAll, ih]
    simp

theorem exists_giveAll_eq (given : Naming) (found : List Discovery) :
    ∃ more, giveAll given found = given ++ more ∧ more.length = found.length := by
  induction found generalizing given with
  | nil => exact ⟨[], by simp [giveAll], rfl⟩
  | cons d found ih =>
    obtain ⟨more, hmore, hlength⟩ := ih (given ++ [(d.id, freeName given.taken d.base)])
    exact ⟨_ :: more, hmore.trans (List.append_assoc ..), by rw [List.length_cons, hlength]; rfl⟩

/-- A name is the first spelling that is not among those given before it, and is not reserved. -/
theorem getElem?_giveAll {found : List Discovery} {k : Nat} {d : Discovery} (hd : found[k]? = some d) :
    ∃ n, ((giveAll [] found).map Prod.snd)[k]? = some (numbered (stemName d.base) n) ∧
      IsLeast {n | numbered (stemName d.base) n ∉
        ((giveAll [] found).map Prod.snd).take k ++ reservedNames} n := by
  obtain ⟨hk, hd⟩ := List.getElem?_eq_some_iff.mp hd
  have hsplit : found = found.take k ++ d :: found.drop (k + 1) := by
    rw [← hd, List.getElem_cons_drop, List.take_append_drop]
  obtain ⟨earlier, hearlier, hlength⟩ := exists_giveAll_eq [] (found.take k)
  rw [List.nil_append] at hearlier
  rw [List.length_take, Nat.min_eq_left (Nat.le_of_lt hk)] at hlength
  obtain ⟨n, hname, hleast⟩ := freeName_least (taken earlier) d.base
  obtain ⟨later, hlater, _⟩ :=
    exists_giveAll_eq (earlier ++ [(d.id, freeName (taken earlier) d.base)]) (found.drop (k + 1))
  have hall : giveAll [] found = earlier ++ (d.id, freeName (taken earlier) d.base) :: later := by
    rw [hsplit, giveAll_append, hearlier, giveAll, List.foldl_cons, ← giveAll, hlater,
      List.append_assoc, List.singleton_append]
  have hnames : (giveAll [] found).map Prod.snd =
      earlier.map Prod.snd ++ numbered (stemName d.base) n :: later.map Prod.snd := by
    rw [hall, List.map_append, List.map_cons, hname]
  have htake : ((giveAll [] found).map Prod.snd).take k = earlier.map Prod.snd := by
    rw [hnames, List.take_left' (by rw [List.length_map, hlength])]
  refine ⟨n, ?_, htake ▸ hleast⟩
  rw [hnames, List.getElem?_append_right (by rw [List.length_map, hlength])]
  simp [hlength]

/-! ### The walk that gives names -/

/-- The classes with a name are different classes of the table. -/
structure Within (t : ClassTable) (given : Naming) : Prop where
  nodup : (given.map Prod.fst).Nodup
  subset : given.map Prod.fst ⊆ t.ids

theorem Within.length_le {given : Naming} (h : given.Within t) : given.length ≤ t.entries.length :=
  List.length_map Prod.fst ▸ ClassTable.length_le_of_subset_ids h.nodup h.subset

/-- From the names given on, the walk along the leads finds these classes. -/
structure Finds (t : ClassTable) (rootName : String) (leads : List Lead) (given : Naming)
    (found : List Discovery) : Prop where
  within : (giveAll given found).Within t
  discovers : ∀ {pending later},
    Discovers t rootName pending ((giveAll given found).map Prod.fst) later →
    Discovers t rootName (leads ++ pending) (given.map Prod.fst) (found ++ later)

theorem Finds.append {leads leads' : List Lead} {given : Naming} {found found' : List Discovery}
    (h : Finds t rootName leads given found) (h' : Finds t rootName leads' (giveAll given found) found') :
    Finds t rootName (leads ++ leads') given (found ++ found') where
  within := giveAll_append given found found' ▸ h'.within
  discovers {pending later} hlater := by
    rw [giveAll_append] at hlater
    rw [List.append_assoc, List.append_assoc]
    exact h.discovers (h'.discovers hlater)

theorem Finds.enter {lead : Lead} {given : Naming} {found : List Discovery} {c : ClassId}
    (hc : lead.type.innermost? = some c) (hnew : c ∉ given.map Prod.fst)
    (h : Finds t rootName (t.leads c) (giveAll given [⟨c, lead.base rootName⟩]) found) :
    Finds t rootName [lead] given (⟨c, lead.base rootName⟩ :: found) where
  within := h.within
  discovers hlater := by
    have hinside := h.discovers hlater
    rw [ids_giveAll] at hinside
    exact .enter hc hnew hinside

/-- The hint that the walk carries along a lead. -/
def hintOf (rootName : String) (lead : Lead) : NameHint :=
  match lead.key with
  | none => .root rootName
  | some key => .field key false

theorem within_element (key : String) (type : Evidence ClassId) :
    (NameHint.field key true).within type = .field key true := by
  induction type with
  | array item n ih => exact ih
  | dictionary value n ih => exact ih
  | _ => rfl

/-- The walk names a class after the lead that it is found by. -/
theorem base_hintOf {lead : Lead} {c : ClassId} (hc : lead.type.innermost? = some c) :
    ((hintOf rootName lead).within lead.type).base = lead.base rootName := by
  obtain ⟨key, type⟩ := lead
  cases key with
  | none => simp only [hintOf, within_root, NameHint.base, Lead.base]
  | some key =>
    simp only [hintOf, Lead.base]
    cases type with
    | array item n => rw [NameHint.within, NameHint.intoElement, within_element]; rfl
    | dictionary value n => rw [NameHint.within, NameHint.intoElement, within_element]; rfl
    | object id n => rfl
    | _ => cases hc

/-- What the walk finds along a list of fields, the fuel counted by the classes that have a name. -/
theorem finds_foldl {depth : Nat} {fs : List (Field ClassId)} {given : Naming}
    (hvisit : ∀ {lead : Lead} {given : Naming}, lead.type.RefersBelow t.entries.length →
      given.Within t → t.entries.length < given.length + depth →
      ∃ found, visit t depth lead.type (hintOf rootName lead) given = giveAll given found ∧
        Finds t rootName [lead] given found)
    (hfs : ∀ f ∈ fs, f.type.RefersBelow t.entries.length) (hgiven : given.Within t)
    (hdepth : t.entries.length < given.length + depth) :
    ∃ found, fs.foldl (fun given f => visit t depth f.type (.field f.name false) given) given =
        giveAll given found ∧
      Finds t rootName (fs.map fun f => ⟨some f.name, f.type⟩) given found := by
  induction fs generalizing given with
  | nil => exact ⟨[], rfl, hgiven, fun h => h⟩
  | cons f fs ih =>
    obtain ⟨hf, hfs⟩ := List.forall_mem_cons.mp hfs
    obtain ⟨found, hfound, hfinds⟩ := @hvisit ⟨some f.name, f.type⟩ given hf hgiven hdepth
    obtain ⟨more, hmore, hlength⟩ := exists_giveAll_eq given found
    have hgrow : (giveAll given found).length = given.length + more.length := by
      rw [hmore, List.length_append]
    obtain ⟨found', hfound', hfinds'⟩ := ih hfs hfinds.within (by omega)
    refine ⟨found ++ found', ?_, hfinds.append hfinds'⟩
    rw [giveAll_append, ← hfound', ← hfound]
    rfl

/-- With fuel for every class without a name, the walk gives names to the classes that it finds. -/
theorem finds_visit (ht : t.InRange) (depth : Nat) {lead : Lead} {given : Naming}
    (hlead : lead.type.RefersBelow t.entries.length) (hgiven : given.Within t)
    (hdepth : t.entries.length < given.length + depth) :
    ∃ found, visit t depth lead.type (hintOf rootName lead) given = giveAll given found ∧
      Finds t rootName [lead] given found := by
  induction depth generalizing lead given with
  | zero =>
    have := hgiven.length_le
    omega
  | succ depth ih =>
    simp only [visit]
    cases hc : lead.type.innermost? with
    | none => exact ⟨[], rfl, hgiven, fun h => .leaf hc h⟩
    | some c =>
      by_cases hknown : c ∈ given.map Prod.fst
      · simp only [isSome_lookup_iff.mpr hknown, if_true]
        exact ⟨[], rfl, hgiven, fun h => .known hc hknown h⟩
      · simp only [mt isSome_lookup_iff.mp hknown, Bool.false_eq_true, if_false]
        rw [base_hintOf hc]
        have hfirst : (giveAll given [⟨c, lead.base rootName⟩]).Within t := by
          constructor
          · rw [ids_giveAll, List.nodup_append']
            exact ⟨hgiven.nodup, List.nodup_singleton _, List.disjoint_singleton.mpr hknown⟩
          · rw [ids_giveAll]
            exact List.append_subset.mpr ⟨hgiven.subset,
              List.cons_subset.mpr ⟨ClassTable.mem_ids.mpr (hlead c hc), List.nil_subset _⟩⟩
        obtain ⟨found, hfound, hfinds⟩ := finds_foldl ih (fun f hf => ht.refersBelow hf) hfirst (by
          rw [giveAll, List.foldl_cons, List.foldl_nil, List.length_append, List.length_singleton]
          omega)
        exact ⟨⟨c, lead.base rootName⟩ :: found, hfound, hfinds.enter hc hknown⟩

end Naming

/-! ### The names -/

theorem assignNames_ne_empty (t : ClassTable) (root : Evidence ClassId) (rootName : String) :
    ∀ name ∈ (assignNames t root rootName).map Prod.snd, name ≠ "" := by
  refine Naming.visit_induction (P := fun given => ∀ name ∈ given.map Prod.snd, name ≠ "")
    (Q := fun _ _ => True) (fun _ _ _ => trivial) ?_ _ _ _ trivial (List.forall_mem_nil _)
  intro given id base _ _ hgiven name hname
  rw [List.map_append, List.mem_append] at hname
  rcases hname with hname | hname
  · exact hgiven name hname
  · cases List.mem_singleton.mp hname
    exact freeName_ne_empty _ _

section Names
variable {t : ClassTable} {root : Evidence ClassId} (ht : t.InRange)
  (hroot : root.RefersBelow t.entries.length) (rootName : String)
include ht hroot

theorem exists_discovers : ∃ found, Discovers t rootName [⟨none, root⟩] [] found ∧
    assignNames t root rootName = Naming.giveAll [] found := by
  have hnone : Naming.Within t [] := ⟨.nil, List.nil_subset _⟩
  obtain ⟨found, hfound, hfinds⟩ := @Naming.finds_visit t rootName ht (t.entries.length + 1)
    ⟨none, root⟩ [] hroot hnone (by rw [List.length_nil]; omega)
  exact ⟨found, by simpa using hfinds.discovers .nil, hfound⟩

/-- A name is a spelling of what the class is named after: a lead from the root, or from a class that is
emitted. -/
theorem exists_namesake {c : ClassId} {name : String}
    (hname : (assignNames t root rootName).lookup c = some name) :
    ∃ lead n, (lead = ⟨none, root⟩ ∨ ∃ b ∈ emissionOrder t root, lead ∈ t.leads b) ∧
      lead.type.innermost? = some c ∧ name = numbered (stemName (lead.base rootName)) n := by
  obtain ⟨found, hfound, hnames⟩ := exists_discovers ht hroot rootName
  have hids : (assignNames t root rootName).map Prod.fst = found.map Discovery.id := by
    rw [hnames, Naming.ids_giveAll, List.map_nil, List.nil_append]
  have hmem := (lookup_eq_some_iff_mem (distinct_assignNames t root rootName).ids).mp hname
  obtain ⟨k, hk⟩ := List.mem_iff_getElem?.mp hmem
  have hid : (found.map Discovery.id)[k]? = some c := by rw [← hids, List.getElem?_map, hk]; rfl
  obtain ⟨d, hd, rfl⟩ := Option.map_eq_some_iff.mp ((List.getElem?_map ..).symm.trans hid)
  obtain ⟨n, hspelling, -⟩ := Naming.getElem?_giveAll hd
  rw [← hnames, List.getElem?_map, hk, Option.map_some, Option.some.injEq] at hspelling
  obtain ⟨lead, hlead, htype, hbase⟩ := hfound.exists_lead (List.mem_of_getElem? hd)
  refine ⟨lead, n, ?_, htype, by rw [← hbase]; exact hspelling⟩
  rcases hlead with hlead | ⟨b, hb, hlead⟩
  · exact .inl (List.mem_singleton.mp hlead)
  · refine .inr ⟨b.id, ?_, hlead⟩
    rw [← mem_assignNames ht hroot rootName, hids]
    exact List.mem_map_of_mem hb

/-- The classes that are emitted have a name, which is not empty, and no others have one. -/
theorem mem_emissionOrder_iff_named (c : ClassId) : c ∈ emissionOrder t root ↔
    ∃ name, (assignNames t root rootName).lookup c = some name ∧ name ≠ "" := by
  rw [← mem_assignNames ht hroot rootName, ← isSome_lookup_iff, Option.isSome_iff_exists]
  refine exists_congr fun name => (and_iff_left_of_imp fun hname => ?_).symm
  have hmem := (lookup_eq_some_iff_mem (distinct_assignNames t root rootName).ids).mp hname
  exact assignNames_ne_empty t root rootName name (List.mem_map_of_mem hmem)

/-- The walk that finds the classes ends, and in one way. The classes found are those that are emitted. Each
has a name of its own that is not reserved, and it is the first spelling of what the class is named after that
no class found before it has. -/
theorem names_in_order_of_discovery :
    ∃ found, (∀ other, Discovers t rootName [⟨none, root⟩] [] other ↔ other = found) ∧
      (assignNames t root rootName).map Prod.fst = found.map Discovery.id ∧
      (∀ c, c ∈ emissionOrder t root ↔
        ∃ name, (assignNames t root rootName).lookup c = some name ∧ name ≠ "") ∧
      (assignNames t root rootName).Distinct ∧
      ∀ (k : Nat) (d : Discovery), found[k]? = some d →
        ∃ n, ((assignNames t root rootName).map Prod.snd)[k]? = some (numbered (stemName d.base) n) ∧
          IsLeast {n | numbered (stemName d.base) n ∉
            ((assignNames t root rootName).map Prod.snd).take k ++ reservedNames} n := by
  obtain ⟨found, hfound, hnames⟩ := exists_discovers ht hroot rootName
  refine ⟨found, fun other => ⟨fun h => h.unique hfound, fun h => h ▸ hfound⟩, ?_,
    mem_emissionOrder_iff_named ht hroot rootName, distinct_assignNames t root rootName, ?_⟩
  · rw [hnames, Naming.ids_giveAll, List.map_nil, List.nil_append]
  · intro k d hd
    rw [hnames]
    exact Naming.getElem?_giveAll hd

end Names

/-- Three classes that are named alike. The first of them leads back to the root. -/
def collidingClasses : ClassTable where
  entries := [
    ⟨[⟨"item", .object ⟨1⟩ false, 1, []⟩, ⟨"items", .array (.object ⟨2⟩ false) false, 1, []⟩,
      ⟨"item2", .object ⟨3⟩ false, 1, []⟩], 1, true⟩,
    ⟨[⟨"owner", .object ⟨0⟩ true, 1, []⟩], 1, false⟩,
    ⟨[⟨"b", .scalar .integer false, 1, []⟩], 1, false⟩,
    ⟨[⟨"c", .scalar .string false, 1, []⟩], 1, false⟩]

theorem inRange_collidingClasses : collidingClasses.InRange :=
  .of_all (by decide)

theorem names_collidingClasses :
    (assignNames collidingClasses (.object ⟨0⟩ false) "Item").map Prod.snd =
      ["Item", "Item2", "Item3", "Item22"] := by
  decide +kernel

/-- The class of the field `item2` would have the name that the class of the field `item` took. -/
theorem names_in_order_of_discovery_colliding :
    (assignNames collidingClasses (.object ⟨0⟩ false) "Item").lookup ⟨3⟩ = some "Item22" ∧
      IsLeast {n | numbered "Item2" n ∉ ["Item", "Item2", "Item3"] ++ reservedNames} 1 := by
  have hroot : (Evidence.object (⟨0⟩ : ClassId) false).RefersBelow collidingClasses.entries.length := by
    intro c hc
    cases hc
    decide
  obtain ⟨found, hfound, -, -, -, hnames⟩ :=
    names_in_order_of_discovery inRange_collidingClasses hroot "Item"
  have hwalk : Discovers collidingClasses "Item" [⟨none, .object ⟨0⟩ false⟩] [] _ :=
    .enter rfl (by decide) (.enter rfl (by decide) (.known rfl (by decide)
      (.enter rfl (by decide) (.leaf rfl (.enter rfl (by decide) (.leaf rfl .nil))))))
  cases (hfound _).mp hwalk
  obtain ⟨n, hname, hleast⟩ := hnames 3 _ rfl
  have hstem : stemName (Lead.base "Item" ⟨some "item2", .object ⟨3⟩ false⟩) = "Item2" := by
    decide +kernel
  rw [hstem, names_collidingClasses] at hname hleast
  have hnumbered : numbered "Item2" 1 = "Item22" := by decide +kernel
  have hn : n = 1 := numbered_injective "Item2" ((Option.some.inj hname).symm.trans hnumbered.symm)
  exact ⟨by decide +kernel, hn ▸ hleast⟩

end Specimen
