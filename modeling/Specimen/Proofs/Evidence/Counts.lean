import Specimen.Proofs.Evidence.Examples
import Specimen.Proofs.Evidence.Tally

/-! What a shape counts.

`Records` says of a list of fields which objects it is an account of: how many there were, how many had
each key, what they had under it, a null where they had nothing, and which literals were among that.
`Counts` is this for shapes, all the
way down. Merging shapes puts the objects together (`Counts.merge`), so that the evidence of a run is a
tally of its samples (`tallies_evidenceOf`). -/
namespace Specimen

/-- What the objects have under a key, as far as they have it. -/
def heldUnder (key : String) (objects : List (List (String × Json))) : List Json :=
  objects.filterMap (·.lookup key)

/-- The fields and the number are those of the objects. -/
structure Records {O : Type} (o : Observer) (R : List (List (String × Json)) → O → Prop)
    (fields : List (Field O)) (seen : Nat) (objects : List (List (String × Json))) : Prop where
  seen : seen = objects.length
  nonempty : objects ≠ []
  keys : ∀ name, (Field.find? fields name).isSome = true ↔
    ∃ members ∈ objects, (members.lookup name).isSome = true
  present : ∀ {name f}, Field.find? fields name = some f →
    f.presentIn = objects.countP fun members => (members.lookup name).isSome
  types : ∀ {name f}, Field.find? fields name = some f →
    Tallies o R false (valuesUnder name objects) f.type
  examples : o.keepsExamples = true → ∀ {name f}, Field.find? fields name = some f →
    Exemplifies f.examples (heldUnder name objects)

/-- The shape is an account of the objects, and so is each shape inside it of those inside them. -/
inductive Counts (o : Observer) : List (List (String × Json)) → Shape → Prop where
  | intro {objects : List (List (String × Json))} {s : Shape} (seen : s.seen = objects.length)
    (nonempty : objects ≠ [])
    (keys : ∀ name, (Field.find? s.fields name).isSome = true ↔
      ∃ members ∈ objects, (members.lookup name).isSome = true)
    (present : ∀ {name f}, Field.find? s.fields name = some f →
      f.presentIn = objects.countP fun members => (members.lookup name).isSome)
    (types : ∀ {name f}, Field.find? s.fields name = some f →
      Tallies o (Counts o) false (valuesUnder name objects) f.type)
    (examples : o.keepsExamples = true → ∀ {name f}, Field.find? s.fields name = some f →
      Exemplifies f.examples (heldUnder name objects)) : Counts o objects s

theorem counts_iff {o : Observer} {objects : List (List (String × Json))} {s : Shape} :
    Counts o objects s ↔ Records o (Counts o) s.fields s.seen objects :=
  ⟨fun ⟨seen, nonempty, keys, present, types, examples⟩ =>
      ⟨seen, nonempty, keys, present, types, examples⟩,
    fun ⟨seen, nonempty, keys, present, types, examples⟩ =>
      ⟨seen, nonempty, keys, present, types, examples⟩⟩

theorem heldUnder_append (name : String) (os ps : List (List (String × Json))) :
    heldUnder name (os ++ ps) = heldUnder name os ++ heldUnder name ps := List.filterMap_append

theorem valuesUnder_append (name : String) (os ps : List (List (String × Json))) :
    valuesUnder name (os ++ ps) = valuesUnder name os ++ valuesUnder name ps := List.map_append

section Records
variable {O : Type} {o : Observer} {R : List (List (String × Json)) → O → Prop}
  {fs gs hs : List (Field O)} {m n : Nat} {os ps : List (List (String × Json))}

theorem Records.lookup_eq_none (h : Records o R fs m os) {name : String}
    (hname : Field.find? fs name = none) : ∀ members ∈ os, members.lookup name = none := by
  intro members hmem
  have hno := mt (h.keys name).mpr
  rw [hname] at hno
  exact Option.not_isSome_iff_eq_none.mp fun hsome =>
    hno Bool.false_ne_true ⟨members, hmem, hsome⟩

/-- Under a key that no object has there are only nulls. -/
theorem Records.shows_null (h : Records o R fs m os) {name : String}
    (hname : Field.find? fs name = none) :
    Shows o false (valuesUnder name os) (.null : Evidence O) := by
  have hnull : ∀ x ∈ valuesUnder name os, x = .null := by
    intro x hx
    obtain ⟨members, hmem, rfl⟩ := List.mem_map.mp hx
    rw [h.lookup_eq_none hname members hmem]
    rfl
  have hne : valuesUnder name os ≠ [] := by simpa [valuesUnder] using h.nonempty
  obtain ⟨x, hx⟩ := List.exists_mem_of_ne_nil _ hne
  exact ⟨.null hne hnull, iff_of_true rfl (hnull x hx ▸ hx)⟩

theorem Records.countP_eq_zero (h : Records o R fs m os) {name : String}
    (hname : Field.find? fs name = none) :
    os.countP (fun members => (members.lookup name).isSome) = 0 :=
  List.countP_eq_zero.mpr fun members hmem => by
    rw [h.lookup_eq_none hname members hmem]
    exact Bool.false_ne_true

theorem Records.heldUnder_eq_nil (h : Records o R fs m os) {name : String}
    (hname : Field.find? fs name = none) : heldUnder name os = [] :=
  List.filterMap_eq_nil_iff.mpr (h.lookup_eq_none hname)

/-- What two lists of fields that are merged have under one key. -/
def Field.merged? [Mergeable O] : Option (Field O) → Option (Field O) → Option (Field O)
  | some f, some g => some (f.absorb g)
  | some f, none => some f.intoNullable
  | none, some g => some g.intoNullable
  | none, none => none

/-- Fields that merge are an account of the objects together, a key that some lack made nullable. -/
theorem Records.merge [Mergeable O] (hf : Records o R fs m os) (hg : Records o R gs n ps)
    (hview : ∀ name, Field.find? hs name =
      Field.merged? (Field.find? fs name) (Field.find? gs name))
    (hmerge : ∀ {name f g}, Field.find? fs name = some f → Field.find? gs name = some g →
      ∀ x y, f.type.innermost? = some x → g.type.innermost? = some y →
        ∃ z, Mergeable.merge x y = some z ∧ ∀ os ps, R os x → R ps y → R (os ++ ps) z) :
    Records o R hs (m + n) (os ++ ps) where
  seen := by rw [hf.seen, hg.seen, List.length_append]
  nonempty := List.append_ne_nil_of_left_ne_nil hf.nonempty ps
  keys name := by
    have hor : (Field.find? hs name).isSome = true ↔
        (Field.find? fs name).isSome = true ∨ (Field.find? gs name).isSome = true := by
      rw [hview]
      cases Field.find? fs name <;> cases Field.find? gs name <;> simp [Field.merged?]
    rw [hor, hf.keys, hg.keys]
    simp only [List.mem_append, or_and_right, exists_or]
  present {name h} hh := by
    rw [hview, Field.merged?.eq_def] at hh
    rw [List.countP_append]
    split at hh <;> cases hh
    case h_1 f g hf' hg' => rw [← hf.present hf', ← hg.present hg']; rfl
    case h_2 f hf' hg' => rw [← hf.present hf', hg.countP_eq_zero hg']; rfl
    case h_3 g hf' hg' => rw [hf.countP_eq_zero hf', ← hg.present hg', Nat.zero_add]; rfl
  types {name h} hh := by
    rw [hview, Field.merged?.eq_def] at hh
    rw [valuesUnder_append]
    split at hh <;> cases hh
    case h_1 f g hf' hg' => exact (hf.types hf').joinWith Mergeable.merge (hmerge hf' hg') (hg.types hg')
    case h_2 f hf' hg' =>
      have h := (hf.types hf').joinWith Mergeable.merge (fun _ _ _ h => by cases h)
        (.null (hg.shows_null hg'))
      rwa [← Evidence.join, Evidence.join_null] at h
    case h_3 g hf' hg' =>
      have h := (Tallies.null (hf.shows_null hf')).joinWith Mergeable.merge (fun _ _ h => by cases h)
        (hg.types hg')
      rwa [← Evidence.join, Evidence.null_join] at h
  examples hkeeps {name h} hh := by
    rw [hview, Field.merged?.eq_def] at hh
    rw [heldUnder_append]
    split at hh <;> cases hh
    case h_1 f g hf' hg' => exact (hf.examples hkeeps hf').keepAll (hg.examples hkeeps hg')
    case h_2 f hf' hg' =>
      have h := hf.examples hkeeps hf'
      rwa [← List.append_nil (heldUnder name os), ← hg.heldUnder_eq_nil hg'] at h
    case h_3 g hf' hg' =>
      have h := hg.examples hkeeps hg'
      rwa [← List.nil_append (heldUnder name ps), ← hf.heldUnder_eq_nil hf'] at h

end Records

section Shapes
variable {o : Observer}

/-- Merged shapes are an account of the objects together. -/
theorem Counts.merge {s t : Shape} {os ps : List (List (String × Json))} (hs : Counts o os s)
    (ht : Counts o ps t) : Counts o (os ++ ps) (s.merge t) := by
  induction hdepth : s.depth using Nat.strongRecOn generalizing s t os ps with
  | ind depth ih =>
    have hseen : (s.merge t).seen = s.seen + t.seen := by
      rw [Shape.merge_eq]
      rfl
    rw [counts_iff] at hs ht ⊢
    rw [hseen]
    refine hs.merge ht (fun name => ?_) fun {name f g} hf hg x y hx hy => ?_
    · rw [Shape.find?_merge]
      cases Field.find? s.fields name <;> cases Field.find? t.fields name <;> rfl
    refine ⟨x.merge y, rfl, fun os ps hx' hy' => ih x.depth ?_ hx' hy' rfl⟩
    have hinside := Shape.depthOfEvidence_le (Field.mem_of_find? hf)
    have hbelow := Shape.depthOfFields_lt_depth s
    rw [Shape.depth_of_innermost hx]
    omega

theorem Tallies.join {atRoot : Bool} {xs ys : List Json} {e e' : Evidence Shape}
    (h : Tallies o (Counts o) atRoot xs e) (h' : Tallies o (Counts o) atRoot ys e') :
    Tallies o (Counts o) atRoot (xs ++ ys) (e.join e') :=
  h.joinWith Mergeable.merge (fun x y _ _ => ⟨x.merge y, rfl, fun _ _ => Counts.merge⟩) h'

/-- Evidence of several lists of values joined is a tally of them all. -/
theorem Tallies.joinAll {α : Type} {atRoot : Bool} {read : α → Evidence Shape}
    (valuesOf : α → List Json) {l : List α}
    (h : ∀ a ∈ l, Tallies o (Counts o) atRoot (valuesOf a) (read a)) :
    Tallies o (Counts o) atRoot (l.flatMap valuesOf) (.joinAll (l.map read)) := by
  suffices hfold : ∀ xs e, Tallies o (Counts o) atRoot xs e →
      Tallies o (Counts o) atRoot (xs ++ l.flatMap valuesOf) ((l.map read).foldl Evidence.join e) from
    hfold [] .unknown (.unknown ⟨.unknown, by simp [Evidence.isNullable]⟩)
  induction l with
  | nil =>
    intro xs e he
    rw [List.flatMap_nil, List.append_nil]
    exact he
  | cons a l ih =>
    intro xs e he
    obtain ⟨ha, hl⟩ := List.forall_mem_cons.mp h
    rw [List.flatMap_cons, ← List.append_assoc]
    exact ih hl _ _ (he.join ha)

end Shapes

namespace Observer
variable (o : Observer)

/-- A value shows its kind, and a null if it is one. -/
theorem shows_singleton {O : Type} {atRoot : Bool} {x : Json} {e : Evidence O}
    (hhead : e.head = o.headOf atRoot x) (hn : e.isNullable = true ↔ x = .null) :
    Shows o atRoot [x] e where
  head := by
    cases hc : o.category? atRoot x with
    | none =>
      have hx := (o.category?_eq_none atRoot).mp hc
      rw [hhead, hx]
      exact .null (List.cons_ne_nil _ _) fun y hy => List.mem_singleton.mp hy
    | some c =>
      refine .kind (c := c) ?_ ⟨x, List.mem_singleton.mpr rfl, hhead.symm⟩ fun y hy => ?_
      · rw [hhead, category_headOf, hc]
      · rw [List.mem_singleton.mp hy, hhead]
        exact Evidence.Head.le_refl _
  nullable := by rw [hn, List.mem_singleton, eq_comm]

theorem shows_of_ne_null {O : Type} {atRoot : Bool} {x : Json} {e : Evidence O}
    (hhead : e.head = o.headOf atRoot x) (hn : e.isNullable = false) (hx : x ≠ .null) :
    Shows o atRoot [x] e :=
  o.shows_singleton hhead (iff_of_false (by simp [hn]) hx)

/-- An object is an account of itself, if what is under each of its keys is. -/
theorem counts_record {members : List (String × Json)} (hd : (members.map Prod.fst).Nodup)
    (h : ∀ m ∈ members, Tallies o (Counts o) false [m.2] (o.observe m.2)) :
    Counts o [members] ⟨o.observeMembers members, 1⟩ := by
  have hfield : ∀ {name f}, Field.find? (o.observeMembers members) name = some f →
      ∃ m ∈ members, members.lookup name = some m.2 ∧
        f = ⟨name, o.observe m.2, 1, o.examplesOf m.2⟩ := by
    intro name f hf
    obtain ⟨m, hm, rfl, _⟩ := o.exists_member_of_find? hf
    rw [o.find?_observeMembers hd hm] at hf
    cases hf
    exact ⟨m, hm, (lookup_eq_some_iff_mem hd).mpr hm, rfl⟩
  refine .intro rfl (List.cons_ne_nil _ _) (fun name => ?_) (fun hf => ?_) (fun hf => ?_)
    fun hkeeps {name f} hf => ?_
  · rw [Field.isSome_find?, names_observeMembers, ← isSome_lookup_iff]
    simp
  · obtain ⟨m, _, hlookup, rfl⟩ := hfield hf
    simp [hlookup]
  · obtain ⟨m, hm, hlookup, rfl⟩ := hfield hf
    simp only [valuesUnder, List.map_cons, List.map_nil, hlookup, Option.getD_some]
    exact h m hm
  · obtain ⟨m, _, hlookup, rfl⟩ := hfield hf
    simp only [heldUnder, List.filterMap_cons, hlookup, List.filterMap_nil, examplesOf, hkeeps,
      Bool.true_and]
    exact .singleton m.2

/-- What is read off a value is a tally of it, at the root or inside a document. -/
theorem tallies_read {x : Json} (hx : x.DistinctKeys) (atRoot : Bool) :
    Tallies o (Counts o) atRoot [x] (if atRoot then o.observeRoot x else o.observe x) := by
  induction hx generalizing atRoot with
  | null => cases atRoot <;> exact .null (o.shows_singleton rfl (iff_of_true rfl rfl))
  | bool b => cases atRoot <;> exact .scalar (o.shows_of_ne_null rfl rfl (by simp))
  | number n => cases atRoot <;> exact .scalar (o.shows_of_ne_null rfl rfl (by simp))
  | string s => cases atRoot <;> exact .scalar (o.shows_of_ne_null rfl rfl (by simp))
  | @array items _ ih =>
    have hread : (if atRoot then o.observeRoot (.array items) else o.observe (.array items)) =
        .array (.joinAll (items.map o.observe)) false := by
      cases atRoot <;> exact o.observe_array items
    have hitems := Tallies.joinAll (fun x => [x]) fun x hx => ih x hx false
    rw [hread]
    refine .array (o.shows_of_ne_null rfl rfl (by simp)) ?_
    simpa [Json.items] using hitems
  | @object members hd _ ih =>
    have hvalues := fun m hm => ih m hm false
    cases atRoot with
    | true => exact .object (o.shows_of_ne_null rfl rfl (by simp)) (o.counts_record hd hvalues)
    | false =>
      rw [if_neg Bool.false_ne_true, observe, objectEvidence]
      split
      case h_1 value hvalue =>
        have hhead : o.headOf false (.object members) = .dictionary := by
          simp only [headOf, takesForDictionary, hvalue]
          rfl
        obtain ⟨_, rfl, _⟩ := DictionaryPolicy.detect_eq_some.mp hvalue
        refine .dictionary (o.shows_of_ne_null hhead.symm rfl (by simp)) ?_
        rw [List.map_map]
        change Tallies o (Counts o) false _ (.joinAll ((o.observeMembers members).map Field.type))
        rw [types_observeMembers]
        have hjoined := Tallies.joinAll (fun m : String × Json => [m.2]) hvalues
        simpa [Json.memberValues, ← List.map_eq_flatMap] using hjoined
      case h_2 hvalue =>
        have hhead : o.headOf false (.object members) = .object := by
          simp only [headOf, takesForDictionary, hvalue]
          rfl
        exact .object (o.shows_of_ne_null hhead.symm rfl (by simp)) (o.counts_record hd hvalues)

/-- The evidence of a run is a tally of its samples. -/
theorem tallies_evidenceOf {samples : List Json} (h : ∀ x ∈ samples, x.DistinctKeys) :
    Tallies o (Counts o) true samples (.joinAll (samples.map o.observeRoot)) := by
  have h := Tallies.joinAll (fun x => [x]) fun x hx => o.tallies_read (h x hx) true
  simpa using h

end Observer

end Specimen
