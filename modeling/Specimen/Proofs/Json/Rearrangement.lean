import Specimen.Proofs.Json.Lockstep

/-! Values whose arrays list their items, and whose objects their members, in another order.

`Json.Reordered` changes the order at every level. What is inside of the one value is matched one by one
with what is inside of the other (`Reordered.inside`). -/
namespace Specimen

/-- Two lists match member by member, once the first is put into another order. -/
def Matched {α β : Type} (R : α → β → Prop) (xs : List α) (ys : List β) : Prop :=
  ∃ zs, xs.Perm zs ∧ List.Forall₂ R zs ys

namespace Matched
variable {α β γ δ : Type} {R : α → β → Prop}

theorem nil : Matched R [] [] := ⟨[], .nil, .nil⟩

theorem of_forall {R : α → α → Prop} {xs : List α} (h : ∀ x ∈ xs, R x x) : Matched R xs xs :=
  ⟨xs, .refl _, List.forall₂_same.mpr h⟩

theorem cons {x : α} {y : β} {xs : List α} {ys : List β} (h : R x y) (hrest : Matched R xs ys) :
    Matched R (x :: xs) (y :: ys) := by
  obtain ⟨zs, hperm, hzs⟩ := hrest
  exact ⟨x :: zs, hperm.cons x, .cons h hzs⟩

theorem singleton {x : α} {y : β} (h : R x y) : Matched R [x] [y] :=
  ⟨[x], .refl _, .cons h .nil⟩

theorem append {xs xs' : List α} {ys ys' : List β} (h : Matched R xs ys) (h' : Matched R xs' ys') :
    Matched R (xs ++ xs') (ys ++ ys') := by
  obtain ⟨zs, hperm, hzs⟩ := h
  obtain ⟨zs', hperm', hzs'⟩ := h'
  exact ⟨zs ++ zs', hperm.append hperm', List.rel_append hzs hzs'⟩

/-- What is made of matching lists, member by member. -/
theorem flatMap {S : γ → δ → Prop} {f : α → List γ} {g : β → List δ} {xs : List α} {ys : List β}
    (h : Matched R xs ys) (hfg : ∀ x ∈ xs, ∀ y, R x y → Matched S (f x) (g y)) :
    Matched S (xs.flatMap f) (ys.flatMap g) := by
  obtain ⟨zs, hperm, hzs⟩ := h
  have hall : Matched S (zs.flatMap f) (ys.flatMap g) := by
    have hmem : ∀ z ∈ zs, z ∈ xs := fun z hz => hperm.mem_iff.mpr hz
    clear hperm
    induction hzs with
    | nil => exact .nil
    | cons hxy _ ih =>
      obtain ⟨hx, hrest⟩ := List.forall_mem_cons.mp hmem
      exact (hfg _ hx _ hxy).append (ih hrest)
  obtain ⟨ws, hws, hfs⟩ := hall
  exact ⟨ws, (hperm.flatMap_right f).trans hws, hfs⟩

theorem map {S : γ → δ → Prop} {f : α → γ} {g : β → δ} {xs : List α} {ys : List β}
    (h : Matched R xs ys) (hfg : ∀ x ∈ xs, ∀ y, R x y → S (f x) (g y)) :
    Matched S (xs.map f) (ys.map g) := by
  rw [List.map_eq_flatMap, List.map_eq_flatMap]
  exact h.flatMap fun x hx y hxy => .singleton (hfg x hx y hxy)

theorem imp {S : α → β → Prop} {xs : List α} {ys : List β} (h : Matched R xs ys)
    (hRS : ∀ x ∈ xs, ∀ y, R x y → S x y) : Matched S xs ys := by
  have := h.map (f := id) (g := id) hRS
  rwa [List.map_id, List.map_id] at this

theorem exists_mem {xs : List α} {ys : List β} (h : Matched R xs ys) {x : α} (hx : x ∈ xs) :
    ∃ y ∈ ys, R x y := by
  obtain ⟨zs, hperm, hzs⟩ := h
  have hx := hperm.mem_iff.mp hx
  clear hperm
  induction hzs with
  | nil => cases hx
  | cons hxy _ ih =>
    rcases List.mem_cons.mp hx with rfl | hx
    · exact ⟨_, List.mem_cons_self, hxy⟩
    · obtain ⟨y, hy, hxy⟩ := ih hx
      exact ⟨y, List.mem_cons_of_mem _ hy, hxy⟩

end Matched

namespace Json

/-- The same value with the items of arrays and the members of objects in another order, at any depth. -/
inductive Reordered : Json → Json → Prop where
  | refl (x) : Reordered x x
  | array {xs zs ys : List Json} (hperm : xs.Perm zs) (hlength : zs.length = ys.length)
    (h : ∀ p ∈ zs.zip ys, Reordered p.1 p.2) : Reordered (.array xs) (.array ys)
  | object {ms ls ns : List (String × Json)} (hperm : ms.Perm ls) (hlength : ls.length = ns.length)
    (hkeys : ∀ p ∈ ls.zip ns, p.1.1 = p.2.1) (h : ∀ p ∈ ls.zip ns, Reordered p.1.2 p.2.2) :
    Reordered (.object ms) (.object ns)

namespace Reordered

/-- To prove something of reordered values, prove it of arrays and objects from their parts as they
match. -/
theorem matched_induction {P : Json → Json → Prop} (refl : ∀ x, P x x)
    (array : ∀ xs ys, Matched (fun x y => x.Reordered y ∧ P x y) xs ys → P (.array xs) (.array ys))
    (object : ∀ ms ns, Matched (fun m n => m.1 = n.1 ∧ m.2.Reordered n.2 ∧ P m.2 n.2) ms ns →
      P (.object ms) (.object ns)) {x y : Json} (h : x.Reordered y) : P x y := by
  induction h with
  | refl x => exact refl x
  | @array xs zs ys hperm hlength h ih =>
    exact array xs ys
      ⟨zs, hperm, List.forall₂_iff_zip.mpr ⟨hlength, fun hp => ⟨h _ hp, ih _ hp⟩⟩⟩
  | @object ms ls ns hperm hlength hkeys h ih =>
    exact object ms ns
      ⟨ls, hperm, List.forall₂_iff_zip.mpr ⟨hlength, fun hp => ⟨hkeys _ hp, h _ hp, ih _ hp⟩⟩⟩

theorem of_array {xs : List Json} {y : Json} (h : Reordered (.array xs) y) :
    ∃ ys, y = .array ys ∧ Matched Reordered xs ys := by
  cases h with
  | refl => exact ⟨xs, rfl, .of_forall fun x _ => .refl x⟩
  | @array _ zs ys hperm hlength h =>
    exact ⟨ys, rfl, zs, hperm, List.forall₂_iff_zip.mpr ⟨hlength, fun hp => h _ hp⟩⟩

theorem of_object {ms : List (String × Json)} {y : Json} (h : Reordered (.object ms) y) :
    ∃ ns, y = .object ns ∧ Matched (fun m n => m.1 = n.1 ∧ m.2.Reordered n.2) ms ns := by
  cases h with
  | refl => exact ⟨ms, rfl, .of_forall fun m _ => ⟨rfl, .refl m.2⟩⟩
  | @object _ ls ns hperm hlength hkeys h =>
    exact ⟨ns, rfl, ls, hperm,
      List.forall₂_iff_zip.mpr ⟨hlength, fun hp => ⟨hkeys _ hp, h _ hp⟩⟩⟩

end Reordered

/-! ### All that is inside of a value -/

mutual

/-- The values inside of a value, at every depth. -/
def inside : Json → List Json
  | .array items => insideItems items
  | .object members => insideMembers members
  | _ => []
termination_by structural x => x

def insideItems : List Json → List Json
  | [] => []
  | x :: xs => x :: (inside x ++ insideItems xs)
termination_by structural xs => xs

def insideMembers : List (String × Json) → List Json
  | [] => []
  | (_, x) :: rest => x :: (inside x ++ insideMembers rest)
termination_by structural ms => ms

end

theorem insideItems_eq (items : List Json) :
    insideItems items = items.flatMap fun x => x :: x.inside := by
  induction items with
  | nil => rfl
  | cons x items ih => rw [insideItems, ih, List.flatMap_cons, List.cons_append]

theorem insideMembers_eq (members : List (String × Json)) :
    insideMembers members = members.flatMap fun m => m.2 :: m.2.inside := by
  induction members with
  | nil => rfl
  | cons m members ih => rw [insideMembers, ih, List.flatMap_cons, List.cons_append]

/-- What is inside of reordered values matches. -/
theorem Reordered.inside {x y : Json} (h : x.Reordered y) :
    Matched Reordered x.inside y.inside := by
  refine h.matched_induction (P := fun x y => Matched Reordered x.inside y.inside)
    (fun x => .of_forall fun z _ => .refl z) ?_ ?_
  · intro xs ys h
    simp only [Json.inside, insideItems_eq]
    exact h.flatMap fun x _ y ⟨hxy, hinside⟩ => .cons hxy hinside
  · intro ms ns h
    simp only [Json.inside, insideMembers_eq]
    exact h.flatMap fun m _ n ⟨_, hmn, hinside⟩ => .cons hmn hinside

theorem DistinctKeys.of_mem_inside {x y : Json} (hx : x.DistinctKeys) (hy : y ∈ x.inside) :
    y.DistinctKeys := by
  induction hx with
  | array hitems ih =>
    rw [inside, insideItems_eq] at hy
    obtain ⟨z, hz, hy⟩ := List.mem_flatMap.mp hy
    rcases List.mem_cons.mp hy with rfl | hy
    · exact hitems y hz
    · exact ih z hz hy
  | object _ hmembers ih =>
    rw [inside, insideMembers_eq] at hy
    obtain ⟨m, hm, hy⟩ := List.mem_flatMap.mp hy
    rcases List.mem_cons.mp hy with rfl | hy
    · exact hmembers m hm
    · exact ih m hm hy
  | _ => cases hy

end Json

end Specimen
