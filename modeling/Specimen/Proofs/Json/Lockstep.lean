import Mathlib.Data.List.Nodup
import Mathlib.Data.List.Perm.Subperm
import Specimen.Classes.Table
import Specimen.Proofs.Json.Keys

/-! Values walked in lockstep with types.

A system of types says which type the items of an array are met at, and the members of an object. Given a
type for a value, `Lockstep.walk` lists the value and all that is inside it, each part with its type, and
`Lockstep.objectsIn` the objects among them that are met at a given class. Two systems that run in
parallel meet the same objects (`objectsIn_eq_of_related`), and the objects inside some objects can be
counted key by key (`objects_perm`). -/
namespace Specimen

namespace Json

/-! ### Parts of a value -/

def items : Json → List Json
  | .array items => items
  | _ => []

def memberValues : Json → List Json
  | .object members => members.map Prod.snd
  | _ => []

def members? : Json → Option (List (String × Json))
  | .object members => some members
  | _ => none

section Induction
set_option linter.unusedSectionVars false
variable {P : Json → Prop} (h : ∀ x : Json, (∀ y ∈ x.items, P y) → (∀ y ∈ x.memberValues, P y) → P x)
include h

mutual

private theorem induction_of_value : ∀ x : Json, P x
  | .null => h _ (fun _ hy => nomatch hy) fun _ hy => nomatch hy
  | .bool _ => h _ (fun _ hy => nomatch hy) fun _ hy => nomatch hy
  | .number _ => h _ (fun _ hy => nomatch hy) fun _ hy => nomatch hy
  | .string _ => h _ (fun _ hy => nomatch hy) fun _ hy => nomatch hy
  | .array items => h _ (induction_of_items items) fun _ hy => nomatch hy
  | .object members => h _ (fun _ hy => nomatch hy) (induction_of_members members)
termination_by structural x => x

private theorem induction_of_items : ∀ xs : List Json, ∀ y ∈ xs, P y
  | [] => fun _ hy => nomatch hy
  | x :: rest => by
    intro y hy
    rcases List.mem_cons.mp hy with hy | hy
    · exact hy ▸ induction_of_value x
    · exact induction_of_items rest y hy
termination_by structural xs => xs

private theorem induction_of_members :
    ∀ ms : List (String × Json), ∀ y ∈ ms.map Prod.snd, P y
  | [] => fun _ hy => nomatch hy
  | (_, x) :: rest => by
    intro y hy
    rcases List.mem_cons.mp hy with hy | hy
    · exact hy ▸ induction_of_value x
    · exact induction_of_members rest y hy
termination_by structural ms => ms

end

/-- To prove something of all values, prove it of a value from its parts. -/
@[elab_as_elim]
theorem parts_induction (x : Json) : P x := induction_of_value h x

end Induction

end Json

/-! ### The walk -/

/-- A system of types, as far as it says which types the parts of a value are met at. -/
structure Lockstep (T : Type) where
  /-- The type of the items of an array. -/
  item? : T → Option T
  /-- The type of the member of an object that has the given key. -/
  member? : T → String → Option T
  /-- The class that the type is. -/
  class? : T → Option ClassId

namespace Lockstep
variable {T : Type} (v : Lockstep T)

mutual

/-- The value and its parts, each with the type that it is met at. Parts that the type does not provide
for are left out. -/
def walk : T → Json → List (T × Json)
  | τ, .array items => (τ, .array items) :: walkItems (v.item? τ) items
  | τ, .object members => (τ, .object members) :: walkMembers (v.member? τ) members
  | τ, x => [(τ, x)]
termination_by structural _ x => x

def walkItems : Option T → List Json → List (T × Json)
  | _, [] => []
  | type?, x :: rest =>
    (match type? with
      | some τ => walk τ x
      | none => []) ++ walkItems type? rest
termination_by structural _ xs => xs

def walkMembers : (String → Option T) → List (String × Json) → List (T × Json)
  | _, [] => []
  | type?, (key, x) :: rest =>
    (match type? key with
      | some τ => walk τ x
      | none => []) ++ walkMembers type? rest
termination_by structural _ ms => ms

end

/-- The parts that are met right below a value. -/
def children (τ : T) : Json → List (T × Json)
  | .array items => items.filterMap fun x => (v.item? τ).map (·, x)
  | .object members => members.filterMap fun m => (v.member? τ m.1).map (·, m.2)
  | _ => []

theorem walkItems_eq (type? : Option T) (items : List Json) : v.walkItems type? items =
    (items.filterMap fun x => type?.map (·, x)).flatMap fun c => v.walk c.1 c.2 := by
  induction items with
  | nil => rfl
  | cons x rest ih => cases type? <;> rw [walkItems, ih] <;> rfl

theorem walkMembers_eq (type? : String → Option T) (members : List (String × Json)) :
    v.walkMembers type? members =
      (members.filterMap fun m => (type? m.1).map (·, m.2)).flatMap fun c => v.walk c.1 c.2 := by
  induction members with
  | nil => rfl
  | cons m rest ih =>
    rw [walkMembers, ih, List.filterMap_cons]
    cases type? m.1 <;> rfl

/-- The walk as an equation: a value, then what is met below it. -/
theorem walk_eq (τ : T) (x : Json) :
    v.walk τ x = (τ, x) :: (v.children τ x).flatMap fun c => v.walk c.1 c.2 := by
  cases x with
  | array items => rw [walk, walkItems_eq, children]
  | object members => rw [walk, walkMembers_eq, children]
  | _ => rfl

theorem mem_walk_self (τ : T) (x : Json) : (τ, x) ∈ v.walk τ x := by
  rw [walk_eq]
  exact List.mem_cons_self ..

theorem part_of_mem_children {τ : T} {x : Json} {c : T × Json} (h : c ∈ v.children τ x) :
    c.2 ∈ x.items ∨ c.2 ∈ x.memberValues := by
  cases x with
  | array items =>
    obtain ⟨y, hy, hc⟩ := List.mem_filterMap.mp h
    obtain ⟨_, _, rfl⟩ := Option.map_eq_some_iff.mp hc
    exact .inl hy
  | object members =>
    obtain ⟨m, hm, hc⟩ := List.mem_filterMap.mp h
    obtain ⟨_, _, rfl⟩ := Option.map_eq_some_iff.mp hc
    exact .inr (List.mem_map_of_mem hm)
  | _ => cases h

/-- What is met below something that the walk meets is met. -/
theorem mem_walk_of_child {τ : T} {x : Json} {b c : T × Json} (hb : b ∈ v.walk τ x)
    (hc : c ∈ v.children b.1 b.2) : c ∈ v.walk τ x := by
  induction x using Json.parts_induction generalizing τ with
  | h x ihi ihm =>
    rw [walk_eq] at hb ⊢
    rcases List.mem_cons.mp hb with rfl | hb
    · exact List.mem_cons_of_mem _ (List.mem_flatMap.mpr ⟨c, hc, v.mem_walk_self c.1 c.2⟩)
    · obtain ⟨d, hd, hb⟩ := List.mem_flatMap.mp hb
      refine List.mem_cons_of_mem _ (List.mem_flatMap.mpr ⟨d, hd, ?_⟩)
      rcases v.part_of_mem_children hd with hpart | hpart
      · exact ihi d.2 hpart hb
      · exact ihm d.2 hpart hb

/-- What the walk meets is the value it starts from, or is met below something. -/
theorem eq_or_child_of_mem_walk {τ : T} {x : Json} {c : T × Json} (h : c ∈ v.walk τ x) :
    c = (τ, x) ∨ ∃ b ∈ v.walk τ x, c ∈ v.children b.1 b.2 := by
  induction x using Json.parts_induction generalizing τ with
  | h x ihi ihm =>
    rw [walk_eq] at h
    rcases List.mem_cons.mp h with rfl | h
    · exact .inl rfl
    · obtain ⟨d, hd, hc⟩ := List.mem_flatMap.mp h
      have hrest : c = (d.1, d.2) ∨ ∃ b ∈ v.walk d.1 d.2, c ∈ v.children b.1 b.2 := by
        rcases v.part_of_mem_children hd with hpart | hpart
        · exact ihi d.2 hpart hc
        · exact ihm d.2 hpart hc
      right
      rw [walk_eq]
      rcases hrest with rfl | ⟨b, hb, hc⟩
      · exact ⟨(τ, x), List.mem_cons_self .., hd⟩
      · exact ⟨b, List.mem_cons_of_mem _ (List.mem_flatMap.mpr ⟨d, hd, hb⟩), hc⟩

/-- Nothing inside a value without repeated keys has a key twice. -/
theorem distinctKeys_of_mem_walk {τ : T} {x : Json} (hx : x.DistinctKeys) {c : T × Json}
    (hc : c ∈ v.walk τ x) : c.2.DistinctKeys := by
  induction x using Json.parts_induction generalizing τ with
  | h x ihi ihm =>
    rw [walk_eq] at hc
    rcases List.mem_cons.mp hc with rfl | hc
    · exact hx
    · obtain ⟨d, hd, hcd⟩ := List.mem_flatMap.mp hc
      rcases v.part_of_mem_children hd with hpart | hpart
      · cases hx with
        | array hitems => exact ihi d.2 hpart (hitems d.2 hpart) hcd
        | _ => cases hpart
      · cases hx with
        | object _ hvalues =>
          obtain ⟨m, hm, hmd⟩ := List.mem_map.mp hpart
          exact ihm d.2 hpart (hmd ▸ hvalues m hm) hcd
        | _ => cases hpart

/-! ### Objects of a class -/

/-- The members of an object that is met at the class. -/
def objectOf? (id : ClassId) (c : T × Json) : Option (List (String × Json)) :=
  if v.class? c.1 = some id then c.2.members? else none

/-- The objects in a value that are met at the class. -/
def objectsIn (id : ClassId) (τ : T) (x : Json) : List (List (String × Json)) :=
  (v.walk τ x).filterMap (v.objectOf? id)

/-- The objects in a list of values. -/
def objects (id : ClassId) (τ : T) (xs : List Json) : List (List (String × Json)) :=
  xs.flatMap (v.objectsIn id τ)

/-- The objects in a value that is met only if there is a type for it. -/
def objectsBelow (id : ClassId) (τ? : Option T) (x : Json) : List (List (String × Json)) :=
  τ?.elim [] fun τ => v.objectsIn id τ x

theorem objectsIn_eq (id : ClassId) (τ : T) (x : Json) : v.objectsIn id τ x =
    (v.objectOf? id (τ, x)).toList ++
      (v.children τ x).flatMap fun c => v.objectsIn id c.1 c.2 := by
  simp only [objectsIn]
  rw [walk_eq, List.filterMap_cons, List.filterMap_flatMap]
  cases v.objectOf? id (τ, x) <;> rfl

theorem flatMap_filterMap_elim {α β γ : Type} (f : α → Option β) (g : β → List γ) (l : List α) :
    (l.filterMap f).flatMap g = l.flatMap fun a => (f a).elim [] g := by
  induction l with
  | nil => rfl
  | cons a l ih =>
    rw [List.filterMap_cons, List.flatMap_cons, ← ih]
    cases f a <;> rfl

theorem objectsIn_array (id : ClassId) (τ : T) (items : List Json) :
    v.objectsIn id τ (.array items) = items.flatMap (v.objectsBelow id (v.item? τ)) := by
  rw [objectsIn_eq, children, flatMap_filterMap_elim]
  simp only [objectOf?, Json.members?, ite_self, Option.toList_none, List.nil_append]
  refine List.flatMap_congr fun x _ => ?_
  cases h : v.item? τ <;> rfl

theorem objectsIn_object (id : ClassId) (τ : T) (members : List (String × Json)) :
    v.objectsIn id τ (.object members) = (if v.class? τ = some id then [members] else []) ++
      members.flatMap fun m => v.objectsBelow id (v.member? τ m.1) m.2 := by
  rw [objectsIn_eq, children, flatMap_filterMap_elim]
  congr 1
  · simp only [objectOf?, Json.members?]
    split <;> rfl
  · refine List.flatMap_congr fun m _ => ?_
    cases h : v.member? τ m.1 <;> rfl

/-- There are no objects in a value without parts. -/
theorem objectsIn_eq_nil (id : ClassId) (τ : T) {x : Json} (hitems : x.items = [])
    (hmembers : x.members? = none) : v.objectsIn id τ x = [] := by
  cases x with
  | array items => rw [objectsIn_array, show items = [] from hitems, List.flatMap_nil]
  | object members => cases hmembers
  | _ => simp [objectsIn_eq v id τ, objectOf?, hmembers, children]

theorem objectsBelow_null (id : ClassId) (τ? : Option T) : v.objectsBelow id τ? .null = [] := by
  cases τ? with
  | none => rfl
  | some τ => exact v.objectsIn_eq_nil id τ rfl rfl

theorem mem_objects {id : ClassId} {τ : T} {xs : List Json} {members : List (String × Json)} :
    members ∈ v.objects id τ xs ↔
      ∃ σ, (σ, .object members) ∈ xs.flatMap (v.walk τ) ∧ v.class? σ = some id := by
  simp only [objects, objectsIn, List.mem_flatMap, List.mem_filterMap]
  constructor
  · rintro ⟨x, hx, ⟨σ, y⟩, hc, hm⟩
    unfold objectOf? at hm
    split at hm
    case isTrue hclass =>
      cases y <;> cases hm
      exact ⟨σ, ⟨x, hx, hc⟩, hclass⟩
    case isFalse => cases hm
  · rintro ⟨σ, ⟨x, hx, hc⟩, hclass⟩
    exact ⟨x, hx, _, hc, by simp only [objectOf?, if_pos hclass, Json.members?]⟩

/-- Systems that enter values in parallel meet the same objects. -/
theorem objectsIn_eq_of_related {U : Type} {v : Lockstep T} {w : Lockstep U} {id id' : ClassId}
    {R : T → U → Json → Prop}
    (hclass : ∀ {τ σ members}, R τ σ (.object members) →
      (v.class? τ = some id ↔ w.class? σ = some id'))
    (hitem : ∀ {τ σ items}, R τ σ (.array items) → ∀ x ∈ items,
      Option.Rel (R · · x) (v.item? τ) (w.item? σ))
    (hmember : ∀ {τ σ members}, R τ σ (.object members) → ∀ m ∈ members,
      Option.Rel (R · · m.2) (v.member? τ m.1) (w.member? σ m.1))
    {τ : T} {σ : U} {x : Json} (h : R τ σ x) : v.objectsIn id τ x = w.objectsIn id' σ x := by
  induction x using Json.parts_induction generalizing τ σ with
  | h x ihi ihm =>
    have hbelow : ∀ {y : Json}, (y ∈ x.items ∨ y ∈ x.memberValues) → ∀ {τ? : Option T} {σ? : Option U},
        Option.Rel (R · · y) τ? σ? → v.objectsBelow id τ? y = w.objectsBelow id' σ? y := by
      intro y hy τ? σ? hrel
      cases hrel with
      | none => rfl
      | some hrel => exact hy.elim (fun hy => ihi y hy hrel) fun hy => ihm y hy hrel
    cases x with
    | array items =>
      rw [objectsIn_array, objectsIn_array]
      exact List.flatMap_congr fun y hy => hbelow (.inl hy) (hitem h y hy)
    | object members =>
      rw [objectsIn_object, objectsIn_object]
      simp only [hclass h]
      congr 1
      exact List.flatMap_congr fun m hm =>
        hbelow (.inr (List.mem_map_of_mem hm)) (hmember h m hm)
    | _ => rw [objectsIn_eq_nil _ _ _ rfl rfl, objectsIn_eq_nil _ _ _ rfl rfl]

end Lockstep

/-! ### Objects key by key -/

/-- What the objects have under a key, each object its value or a null for want of one. -/
def valuesUnder (key : String) (objects : List (List (String × Json))) : List Json :=
  objects.map fun members => (members.lookup key).getD .null

/-- An object as the list of what it has under each of some keys, among them all of its own. -/
theorem perm_filterMap_lookup {β : Type} {keys : List String} (hk : keys.Nodup)
    {members : List (String × β)} (hd : (members.map Prod.fst).Nodup)
    (hsub : ∀ key ∈ members.map Prod.fst, key ∈ keys) :
    members.Perm (keys.filterMap fun key => (members.lookup key).map (key, ·)) := by
  have hnodup : (keys.filterMap fun key => (members.lookup key).map (key, ·)).Nodup := by
    refine hk.filterMap fun key key' m hm hm' => ?_
    obtain ⟨_, _, rfl⟩ := Option.map_eq_some_iff.mp hm
    obtain ⟨_, _, h⟩ := Option.map_eq_some_iff.mp hm'
    exact (congrArg Prod.fst h).symm
  refine (List.perm_ext_iff_of_nodup (List.Nodup.of_map Prod.fst hd) hnodup).mpr fun m => ?_
  rw [List.mem_filterMap]
  constructor
  · intro hm
    refine ⟨m.1, hsub m.1 (List.mem_map_of_mem hm), ?_⟩
    rw [(lookup_eq_some_iff_mem hd).mpr hm, Option.map_some]
  · rintro ⟨key, _, h⟩
    obtain ⟨x, hx, rfl⟩ := Option.map_eq_some_iff.mp h
    exact (lookup_eq_some_iff_mem hd).mp hx

theorem perm_flatMap_swap {α β γ : Type} (l : List α) (m : List β) (f : α → β → List γ) :
    (l.flatMap fun a => m.flatMap (f a)).Perm (m.flatMap fun b => l.flatMap fun a => f a b) := by
  induction m with
  | nil => simp
  | cons b m ih =>
    simp only [List.flatMap_cons]
    exact (List.flatMap_append_perm l _ _).symm.trans (.append_left _ ih)

namespace Lockstep
variable {T : Type} (v : Lockstep T)

/-- The objects inside an object, key by key. -/
theorem perm_objectsBelow {keys : List String} (hk : keys.Nodup) {members : List (String × Json)}
    (hd : (members.map Prod.fst).Nodup) (hsub : ∀ key ∈ members.map Prod.fst, key ∈ keys)
    (id : ClassId) (τ : T) :
    (members.flatMap fun m => v.objectsBelow id (v.member? τ m.1) m.2).Perm
      (keys.flatMap fun key =>
        v.objectsBelow id (v.member? τ key) ((members.lookup key).getD .null)) := by
  refine ((perm_filterMap_lookup hk hd hsub).flatMap_right _).trans (.of_eq ?_)
  rw [flatMap_filterMap_elim]
  refine List.flatMap_congr fun key _ => ?_
  cases members.lookup key with
  | none => exact (v.objectsBelow_null id _).symm
  | some x => rfl

/-- The objects in some objects of one type: themselves, if that is the class asked for, and key by key
the objects inside them. -/
theorem objects_perm {keys : List String} (hk : keys.Nodup) {id : ClassId} {τ : T} {xs : List Json}
    (hxs : ∀ x ∈ xs, x = .null ∨ ∃ members, x = .object members ∧ (members.map Prod.fst).Nodup ∧
      ∀ key ∈ members.map Prod.fst, key ∈ keys) :
    (v.objects id τ xs).Perm
      ((if v.class? τ = some id then xs.filterMap Json.members? else []) ++
        keys.flatMap fun key => (valuesUnder key (xs.filterMap Json.members?)).flatMap
          (v.objectsBelow id (v.member? τ key))) := by
  have heach : ∀ objects : List (List (String × Json)),
      (objects.flatMap fun members => keys.flatMap fun key =>
        v.objectsBelow id (v.member? τ key) ((members.lookup key).getD .null)).Perm
      (keys.flatMap fun key => (valuesUnder key objects).flatMap
        (v.objectsBelow id (v.member? τ key))) := by
    intro objects
    refine (perm_flatMap_swap objects keys _).trans (.of_eq ?_)
    simp only [valuesUnder, List.flatMap_map]
  refine List.Perm.trans ?_ (.append_left _ (heach _))
  induction xs with
  | nil => simp [objects]
  | cons x xs ih =>
    obtain ⟨hx, hrest⟩ := List.forall_mem_cons.mp hxs
    rw [objects, List.flatMap_cons, ← objects]
    rcases hx with rfl | ⟨members, rfl, hd, hsub⟩
    · rw [objectsIn_eq_nil _ _ _ rfl rfl]
      exact ih hrest
    · have hinside := v.perm_objectsBelow hk hd hsub id τ
      have hown : (if v.class? τ = some id then (Json.object members :: xs).filterMap Json.members?
          else []) = (if v.class? τ = some id then [members] else []) ++
            if v.class? τ = some id then xs.filterMap Json.members? else [] := by
        split <;> rfl
      rw [objectsIn_object, hown, List.append_assoc, List.append_assoc]
      refine .append_left _ (((hinside.append (ih hrest)).trans ?_))
      exact List.perm_append_comm_assoc _ _ _

end Lockstep

end Specimen
