import Specimen.Json.Reader

/-! Documents in which no object has a key twice.

Here an object is a list of members, and that it is a map from keys to values is a property,
`Json.DistinctKeys`. Reading keeps it: a member that is read again replaces the first
(`distinctKeys_of_parse`). -/
namespace Specimen

/-! ### Looking up -/

theorem lookup_eq_some_iff_mem {α β : Type} [BEq α] [LawfulBEq α] {l : List (α × β)}
    (hd : (l.map Prod.fst).Nodup) {a : α} {b : β} : l.lookup a = some b ↔ (a, b) ∈ l := by
  induction l with
  | nil => simp
  | cons c l ih =>
    obtain ⟨a', b'⟩ := c
    rw [List.map_cons, List.nodup_cons] at hd
    rw [List.lookup_cons, List.mem_cons]
    by_cases ha : a = a'
    · subst ha
      have hnot : (a, b) ∉ l := fun hmem => hd.1 (List.mem_map.mpr ⟨(a, b), hmem, rfl⟩)
      simp [hnot, eq_comm]
    · rw [beq_eq_false_iff_ne.mpr ha]
      simp [ha, ih hd.2]

theorem isSome_lookup_iff {α β : Type} [BEq α] [LawfulBEq α] {l : List (α × β)} {a : α} :
    (l.lookup a).isSome = true ↔ a ∈ l.map Prod.fst := by
  rw [List.lookup_isSome_iff, List.mem_map]
  exact exists_congr fun c => and_congr_right fun _ => beq_iff_eq.trans eq_comm

namespace Json

/-- No object in the document has two members of one key. -/
inductive DistinctKeys : Json → Prop where
  | null : DistinctKeys .null
  | bool (b) : DistinctKeys (.bool b)
  | number (n) : DistinctKeys (.number n)
  | string (s) : DistinctKeys (.string s)
  | array {items} (h : ∀ x ∈ items, DistinctKeys x) : DistinctKeys (.array items)
  | object {members} (hd : (members.map Prod.fst).Nodup) (h : ∀ m ∈ members, DistinctKeys m.2) :
    DistinctKeys (.object members)

theorem distinctKeys_array {items : List Json} :
    (array items).DistinctKeys ↔ ∀ x ∈ items, x.DistinctKeys :=
  ⟨fun | .array h => h, .array⟩

theorem distinctKeys_object {members : List (String × Json)} :
    (object members).DistinctKeys ↔
      (members.map Prod.fst).Nodup ∧ ∀ m ∈ members, m.2.DistinctKeys :=
  ⟨fun | .object hd h => ⟨hd, h⟩, fun ⟨hd, h⟩ => .object hd h⟩

/-! ### Setting a member -/

theorem mem_keys_setMember {key name : String} {x : Json} {members : List (String × Json)} :
    name ∈ (setMember key x members).map Prod.fst ↔ name = key ∨ name ∈ members.map Prod.fst := by
  induction members with
  | nil => simp [setMember]
  | cons m rest ih =>
    obtain ⟨k, y⟩ := m
    simp only [setMember]
    by_cases hk : k = key
    · subst hk
      simp
    · rw [if_neg hk, List.map_cons, List.mem_cons, ih, List.map_cons, List.mem_cons]
      exact or_left_comm

theorem nodup_keys_setMember (key : String) (x : Json) {members : List (String × Json)}
    (h : (members.map Prod.fst).Nodup) : ((setMember key x members).map Prod.fst).Nodup := by
  induction members with
  | nil => simp [setMember]
  | cons m rest ih =>
    obtain ⟨k, y⟩ := m
    rw [List.map_cons, List.nodup_cons] at h
    simp only [setMember]
    by_cases hk : k = key
    · rw [if_pos hk, List.map_cons, List.nodup_cons]
      exact h
    · rw [if_neg hk, List.map_cons, List.nodup_cons, mem_keys_setMember]
      exact ⟨fun hmem => hmem.elim hk h.1, ih h.2⟩

/-- What is set, and what was there before. -/
theorem mem_of_mem_setMember {key : String} {x : Json} {members : List (String × Json)}
    {m : String × Json} (h : m ∈ setMember key x members) : m.2 = x ∨ m ∈ members := by
  induction members with
  | nil =>
    cases List.mem_singleton.mp h
    exact .inl rfl
  | cons n rest ih =>
    obtain ⟨k, y⟩ := n
    simp only [setMember] at h
    by_cases hk : k = key
    · rw [if_pos hk] at h
      rcases List.mem_cons.mp h with rfl | h
      · exact .inl rfl
      · exact .inr (List.mem_cons_of_mem _ h)
    · rw [if_neg hk] at h
      rcases List.mem_cons.mp h with rfl | h
      · exact .inr (List.mem_cons_self ..)
      · exact (ih h).imp_right (List.mem_cons_of_mem _)

/-! ### Reading -/

theorem bind_eq_ok_iff {ε α β : Type} {x : Except ε α} {f : α → Except ε β} {b : β} :
    x >>= f = .ok b ↔ ∃ a, x = .ok a ∧ f a = .ok b := by
  cases x with
  | error e => exact iff_of_false nofun nofun
  | ok a => exact ⟨fun h => ⟨a, rfl, h⟩, fun ⟨_, ha, h⟩ => Except.ok.inj ha ▸ h⟩

theorem map_eq_ok_iff {ε α β : Type} {x : Except ε α} {f : α → β} {b : β} :
    x.map f = .ok b ↔ ∃ a, x = .ok a ∧ f a = b := by
  cases x with
  | error e => exact iff_of_false nofun nofun
  | ok a => simp [Except.map]

theorem mapError_eq_ok_iff {ε ε' α : Type} {x : Except ε α} {f : ε → ε'} {a : α} :
    x.mapError f = .ok a ↔ x = .ok a := by
  cases x with
  | error e => exact iff_of_false nofun nofun
  | ok b => exact ⟨fun h => congrArg _ (Except.ok.inj h), fun h => congrArg _ (Except.ok.inj h)⟩

theorem exists_of_mapM {ε α β : Type} {f : α → Except ε β} {l : List α} {found : List β}
    (h : l.mapM f = .ok found) : ∀ a ∈ l, ∃ b, f a = .ok b := by
  induction l generalizing found with
  | nil => exact List.forall_mem_nil _
  | cons a l ih =>
    rw [List.mapM_cons] at h
    obtain ⟨b, hb, h⟩ := bind_eq_ok_iff.mp h
    obtain ⟨others, hothers, -⟩ := bind_eq_ok_iff.mp h
    exact List.forall_mem_cons.mpr ⟨⟨b, hb⟩, ih hothers⟩

section Reading
variable {readItem : Bytes → Scan Json}
  (hitem : ∀ {input x rest}, readItem input = .ok (x, rest) → x.DistinctKeys)
include hitem

theorem distinctKeys_readItems {fuel : Nat} {first : Bool} {input : Bytes} {items : List Json}
    {rest : Bytes} (h : readItems readItem fuel first input = .ok (items, rest)) :
    ∀ x ∈ items, x.DistinctKeys := by
  induction fuel generalizing first input items with
  | zero => cases h
  | succ fuel ih =>
    obtain ⟨⟨more, input⟩, _, h⟩ := bind_eq_ok_iff.mp h
    cases more with
    | false =>
      cases h
      exact List.forall_mem_nil _
    | true =>
      obtain ⟨⟨x, input⟩, hx, h⟩ := bind_eq_ok_iff.mp h
      obtain ⟨⟨xs, input⟩, hxs, h⟩ := bind_eq_ok_iff.mp h
      cases h
      exact List.forall_mem_cons.mpr ⟨hitem hx, ih hxs⟩

theorem distinctKeys_readMembers {fuel : Nat} {first : Bool} {input : Bytes}
    {members read : List (String × Json)} {rest : Bytes}
    (h : readMembers readItem fuel first members input = .ok (read, rest))
    (hmembers : (object members).DistinctKeys) : (object read).DistinctKeys := by
  induction fuel generalizing first input members with
  | zero => cases h
  | succ fuel ih =>
    obtain ⟨⟨key?, input⟩, _, h⟩ := bind_eq_ok_iff.mp h
    cases key? with
    | none =>
      cases h
      exact hmembers
    | some key =>
      obtain ⟨input, _, h⟩ := bind_eq_ok_iff.mp h
      obtain ⟨⟨x, input⟩, hx, h⟩ := bind_eq_ok_iff.mp h
      obtain ⟨hd, hvalues⟩ := distinctKeys_object.mp hmembers
      refine ih h (.object (nodup_keys_setMember key x hd) fun m hm => ?_)
      rcases mem_of_mem_setMember hm with hm | hm
      · rw [hm]
        exact hitem hx
      · exact hvalues m hm

end Reading

/-- Neither an array nor an object. -/
def IsLeaf (x : Json) : Prop := (∀ items, x ≠ .array items) ∧ ∀ members, x ≠ .object members

theorem IsLeaf.distinctKeys {x : Json} (h : x.IsLeaf) : x.DistinctKeys := by
  cases x with
  | array items => exact absurd rfl (h.1 items)
  | object members => exact absurd rfl (h.2 members)
  | _ => constructor

/-- A value that is read is a leaf, or it is a list of items or of members read one level deeper. -/
theorem readValue_ok {most depth : Nat} {input : Bytes} {x : Json} {rest : Bytes}
    (h : readValue most depth input = .ok (x, rest)) :
    x.IsLeaf ∨ ∃ below, depth = below + 1 ∧ ∃ input rest,
      (∃ items, x = .array items ∧
        readItems (readValue most below) (most + 1) true input = .ok (items, rest)) ∨
      ∃ members, x = .object members ∧
        readMembers (readValue most below) (most + 1) true [] input = .ok (members, rest) := by
  have hleaf : ∀ {α : Type} {scan : Except Stop α} {f : α → Json × Bytes},
      scan.map f = .ok (x, rest) → (∀ a, (f a).1.IsLeaf) → x.IsLeaf := by
    intro α scan f h hf
    obtain ⟨a, _, hx⟩ := map_eq_ok_iff.mp h
    have hleaf := hf a
    rwa [hx] at hleaf
  unfold readValue at h
  dsimp only at h
  split at h
  case h_1 => cases h
  case h_2 b after _ =>
    split at h
    · exact .inl (hleaf h fun _ => ⟨nofun, nofun⟩)
    split at h
    · exact .inl (hleaf h fun _ => ⟨nofun, nofun⟩)
    split at h
    · exact .inl (hleaf h fun _ => ⟨nofun, nofun⟩)
    split at h
    · exact .inl (hleaf h fun _ => ⟨nofun, nofun⟩)
    split at h
    · exact .inl (hleaf h fun _ => ⟨nofun, nofun⟩)
    split at h
    · exact .inl (hleaf h fun _ => ⟨nofun, nofun⟩)
    split at h
    · cases depth with
      | zero => cases h
      | succ below =>
        obtain ⟨⟨items, rest⟩, hitems, hx⟩ := map_eq_ok_iff.mp h
        cases hx
        exact .inr ⟨below, rfl, after, _, .inl ⟨items, rfl, hitems⟩⟩
    split at h
    · cases depth with
      | zero => cases h
      | succ below =>
        obtain ⟨⟨members, rest⟩, hmembers, hx⟩ := map_eq_ok_iff.mp h
        cases hx
        exact .inr ⟨below, rfl, after, _, .inr ⟨members, rfl, hmembers⟩⟩
    · cases h

theorem distinctKeys_readValue {most depth : Nat} {input : Bytes} {x : Json} {rest : Bytes}
    (h : readValue most depth input = .ok (x, rest)) : x.DistinctKeys := by
  induction depth generalizing input x rest with
  | zero =>
    rcases readValue_ok h with h | ⟨_, hdepth, _⟩
    · exact h.distinctKeys
    · cases hdepth
  | succ depth ih =>
    rcases readValue_ok h with h | ⟨_, ⟨⟩, _, _, ⟨items, rfl, hitems⟩ | ⟨members, rfl, hmembers⟩⟩
    · exact h.distinctKeys
    · exact .array (distinctKeys_readItems (fun hx => ih hx) hitems)
    · exact distinctKeys_readMembers (fun hx => ih hx) hmembers
        (distinctKeys_object.mpr ⟨List.nodup_nil, List.forall_mem_nil _⟩)

/-- No object that is read from a text has a key twice. -/
theorem distinctKeys_of_parse {text : String} {x : Json} (h : parse text = .ok x) :
    x.DistinctKeys := by
  unfold parse read at h
  split at h
  case h_1 => cases h
  case h_2 value rest hvalue =>
    split at h
    case h_1 =>
      cases h
      exact distinctKeys_readValue hvalue
    case h_2 => cases h

end Json

end Specimen
