import Specimen.Proofs.Evidence.Composition

/-! Evidence with the counts or the examples blotted out.

Nothing that is done with evidence looks at either: joining what is left gives what is left of the join
(`evidence_join`). -/
namespace Specimen

/-- What is left out where two runs are compared. -/
structure Redaction where
  /-- How many objects there were, and how many had a key. -/
  counts : Bool
  /-- The literals that were kept. -/
  examples : Bool

namespace Redaction

/-- Only the counts are left out. -/
def ofCounts : Redaction := ⟨true, false⟩

/-- Only the examples are left out. -/
def ofExamples : Redaction := ⟨false, true⟩

variable (r : Redaction)

def count (n : Nat) : Nat := if r.counts then 0 else n

def list (xs : List Json) : List Json := if r.examples then [] else xs

theorem count_add (m n : Nat) : r.count (m + n) = r.count m + r.count n := by
  unfold count
  split <;> rfl

theorem list_keepAll (kept xs : List Json) :
    r.list (xs.foldl keepExample kept) = (r.list xs).foldl keepExample (r.list kept) := by
  unfold list
  split <;> rfl

/-- A field whose type is redacted in a way of its own. -/
def field {O P : Type} (type : Evidence O → Evidence P) (f : Field O) : Field P where
  name := f.name
  type := type f.type
  presentIn := r.count f.presentIn
  examples := r.list f.examples

mutual

def shape : Shape → Shape
  | ⟨fields, seen⟩ => ⟨shapeFields fields, r.count seen⟩
termination_by structural s => s

def shapeFields : List (Field Shape) → List (Field Shape)
  | [] => []
  | ⟨name, type, presentIn, examples⟩ :: rest =>
    ⟨name, evidence type, r.count presentIn, r.list examples⟩ :: shapeFields rest
termination_by structural fs => fs

def evidence : Evidence Shape → Evidence Shape
  | .unknown => .unknown
  | .null => .null
  | .anything nullable => .anything nullable
  | .scalar kind nullable => .scalar kind nullable
  | .array item nullable => .array (evidence item) nullable
  | .dictionary value nullable => .dictionary (evidence value) nullable
  | .object s nullable => .object (shape s) nullable
termination_by structural e => e

end

theorem fields_shape (s : Shape) : (r.shape s).fields = s.fields.map (r.field r.evidence) := by
  cases s with
  | mk fields seen =>
    induction fields with
    | nil => rfl
    | cons f fields ih => exact congrArg (r.field r.evidence f :: ·) ih

theorem seen_shape (s : Shape) : (r.shape s).seen = r.count s.seen := by
  cases s
  rfl

theorem evidence_intoNullable (e : Evidence Shape) :
    r.evidence e.intoNullable = (r.evidence e).intoNullable := by
  cases e <;> rfl

theorem field_joined {f : Field Shape}
    (h : ∀ e, r.evidence (f.type.join e) = (r.evidence f.type).join (r.evidence e))
    (g? : Option (Field Shape)) : r.field r.evidence (f.joined g?) =
      (r.field r.evidence f).joined (g?.map (r.field r.evidence)) := by
  cases g? with
  | none => exact Field.ext rfl (r.evidence_intoNullable f.type) rfl rfl
  | some g => exact Field.ext rfl (h g.type) (r.count_add _ _) (r.list_keepAll _ _)

theorem shape_merge {s : Shape} (t : Shape)
    (h : ∀ f ∈ s.fields, ∀ e, r.evidence (f.type.join e) = (r.evidence f.type).join (r.evidence e)) :
    r.shape (s.merge t) = (r.shape s).merge (r.shape t) := by
  have hfind : ∀ (u : Shape) name, Field.find? (u.fields.map (r.field r.evidence)) name =
      (Field.find? u.fields name).map (r.field r.evidence) :=
    fun u => Field.find?_map (r.field r.evidence) (fun _ => rfl) u.fields
  refine Shape.ext ?_ ?_
  · rw [fields_shape, Shape.fields_merge, Shape.fields_merge, fields_shape, fields_shape,
      List.map_append, List.map_map, List.map_map, List.map_map, List.filter_map, List.map_map]
    simp only [Function.comp_def, hfind, Option.isNone_map]
    congr 1
    · exact List.map_congr_left fun f hf => r.field_joined (h f hf) _
    · exact List.map_congr_left fun g _ => Field.ext rfl (r.evidence_intoNullable g.type) rfl rfl
  · rw [seen_shape, Shape.seen_merge, Shape.seen_merge, seen_shape, seen_shape, r.count_add]

theorem evidence_join (a b : Evidence Shape) :
    r.evidence (a.join b) = (r.evidence a).join (r.evidence b) := by
  induction a using Evidence.shape_induction generalizing b with
  | unknown =>
    rw [Evidence.unknown_join]
    exact (Evidence.unknown_join _).symm
  | null =>
    rw [Evidence.null_join, evidence_intoNullable]
    exact (Evidence.null_join _).symm
  | anything m => cases b <;> rfl
  | scalar j m =>
    cases b with
    | scalar k n =>
      simp only [Evidence.join, Evidence.joinWith, evidence]
      cases j.join k <;> rfl
    | _ => rfl
  | array x m ih =>
    cases b with
    | array y n => exact congrArg (Evidence.array · (m || n)) (ih y)
    | _ => rfl
  | dictionary x m ih =>
    cases b with
    | dictionary y n => exact congrArg (Evidence.dictionary · (m || n)) (ih y)
    | _ => rfl
  | object s m ih =>
    cases b with
    | object t n => exact congrArg (Evidence.object · (m || n)) (r.shape_merge t ih)
    | _ => rfl

theorem evidence_foldl_join (e : Evidence Shape) (es : List (Evidence Shape)) :
    r.evidence (es.foldl Evidence.join e) = (es.map r.evidence).foldl Evidence.join (r.evidence e) := by
  induction es generalizing e with
  | nil => rfl
  | cons x es ih => rw [List.foldl_cons, ih, evidence_join, List.map_cons, List.foldl_cons]

theorem evidence_joinAll (es : List (Evidence Shape)) :
    r.evidence (.joinAll es) = .joinAll (es.map r.evidence) :=
  r.evidence_foldl_join .unknown es

theorem isAnything_evidence (e : Evidence Shape) : (r.evidence e).isAnything = e.isAnything := by
  cases e <;> rfl

/-! ### Evidence that is there already

Joining it once more changes nothing but counts. -/

theorem shape_merge_self {s : Shape} (hd : (s.fields.map Field.name).Nodup)
    (hs : ∀ f ∈ s.fields, KeptExamples f.examples)
    (htypes : ∀ f ∈ s.fields, ofCounts.evidence (f.type.join f.type) = ofCounts.evidence f.type) :
    ofCounts.shape (s.merge s) = ofCounts.shape s := by
  have hnothing : (s.fields.filter fun f => (Field.find? s.fields f.name).isNone) = [] :=
    List.filter_eq_nil_iff.mpr fun f hf => by simp [Field.find?_of_mem hd hf]
  refine Shape.ext ?_ ?_
  · rw [fields_shape, fields_shape, Shape.fields_merge, hnothing, List.map_nil, List.append_nil,
      List.map_map]
    refine List.map_congr_left fun f hf => ?_
    rw [Function.comp_apply, Field.find?_of_mem hd hf]
    exact Field.ext rfl (htypes f hf) rfl ((hs f hf).keepAll_self .nil)
  · rw [seen_shape, seen_shape]
    rfl

theorem evidence_join_self {a : Evidence Shape} (hd : a.DistinctKeys) (ha : a.KeepsExamples) :
    ofCounts.evidence (a.join a) = ofCounts.evidence a := by
  induction a using Evidence.shape_induction with
  | unknown => rfl
  | null => rfl
  | anything m => simp only [Evidence.join, Evidence.joinWith, Evidence.isNullable, Bool.or_self]
  | scalar j m => cases j <;> cases m <;> rfl
  | array x m ih =>
    change Evidence.array (ofCounts.evidence (x.join x)) (m || m) = .array (ofCounts.evidence x) m
    rw [ih hd.of_array ha.of_array, Bool.or_self]
  | dictionary x m ih =>
    change Evidence.dictionary (ofCounts.evidence (x.join x)) (m || m) =
      .dictionary (ofCounts.evidence x) m
    rw [ih hd.of_dictionary ha.of_dictionary, Bool.or_self]
  | object s m ih =>
    obtain ⟨hnames, htypes⟩ := Evidence.distinctKeys_object.mp hd
    have hs := ha.of_object
    change Evidence.object (ofCounts.shape (s.merge s)) (m || m) = .object (ofCounts.shape s) m
    rw [shape_merge_self hnames (fun f hf => (hs f hf).1)
      (fun f hf => ih f hf (htypes f hf) (hs f hf).2), Bool.or_self]

/-- A field that takes in its own observation once more. -/
theorem field_joined_absorb {f : Field Shape} (hd : f.type.DistinctKeys)
    (hf : KeptExamples f.examples) (hkeeps : f.type.KeepsExamples) {g? : Option (Field Shape)}
    (hg : ∀ g, g? = some g → KeptExamples g.examples ∧
      ofCounts.evidence ((f.type.join g.type).join f.type) =
        ofCounts.evidence (f.type.join g.type)) :
    ofCounts.field ofCounts.evidence ((f.joined g?).absorb f) =
      ofCounts.field ofCounts.evidence (f.joined g?) := by
  cases g? with
  | none =>
    have hnull : ofCounts.evidence (f.type.intoNullable.join f.type) =
        ofCounts.evidence f.type.intoNullable := by
      rw [Evidence.intoNullable_join, evidence_intoNullable, evidence_join_self hd hkeeps,
        evidence_intoNullable]
    exact Field.ext rfl hnull rfl (hf.keepAll_self .nil)
  | some g =>
    obtain ⟨hexamples, htype⟩ := hg g rfl
    exact Field.ext rfl htype rfl (hf.keepAll_self hexamples)

theorem shape_merge_merge_self {s t : Shape} (hd : (s.fields.map Field.name).Nodup)
    (hs : ∀ f ∈ s.fields, f.type.DistinctKeys ∧ KeptExamples f.examples ∧ f.type.KeepsExamples)
    (ht : ∀ f ∈ s.fields, ∀ g ∈ t.fields, KeptExamples g.examples ∧
      ofCounts.evidence ((f.type.join g.type).join f.type) =
        ofCounts.evidence (f.type.join g.type)) :
    ofCounts.shape ((s.merge t).merge s) = ofCounts.shape (s.merge t) := by
  have hnothing : (s.fields.filter fun f =>
      (Field.find? (s.merge t).fields f.name).isNone) = [] := by
    refine List.filter_eq_nil_iff.mpr fun f hf => ?_
    rw [Shape.find?_merge_eq, Field.find?_of_mem hd hf, Field.merged?_some]
    exact Bool.false_ne_true
  refine Shape.ext ?_ ?_
  · rw [fields_shape, fields_shape, Shape.fields_merge (s.merge t), hnothing, List.map_nil,
      List.append_nil, List.map_map]
    refine List.map_congr_left fun h hh => ?_
    rw [Shape.fields_merge, List.mem_append] at hh
    rw [Function.comp_apply]
    rcases hh with hh | hh
    · obtain ⟨f, hf, rfl⟩ := List.mem_map.mp hh
      obtain ⟨hkeys, hexamples, hkeeps⟩ := hs f hf
      rw [Field.name_joined, Field.find?_of_mem hd hf]
      exact field_joined_absorb hkeys hexamples hkeeps fun g hg => ht f hf g (Field.mem_of_find? hg)
    · obtain ⟨g, hg, rfl⟩ := List.mem_map.mp hh
      have hnone := Option.isNone_iff_eq_none.mp (List.mem_filter.mp hg).2
      rw [Field.name_intoNullable, hnone, Field.joined, Field.intoNullable_intoNullable]
  · rw [seen_shape, seen_shape]
    rfl

/-- Where the kind leaves nothing open, joining once more changes nothing at all. -/
theorem join_join_self_of_flat {a b : Evidence Shape} (h : (a.head.join b.head).flat = true) :
    (a.join b).join a = a.join b := by
  refine Evidence.eq_of_flat ?_ ?_ ?_
  · rw [Evidence.head_join, Evidence.head_join]
    exact Evidence.Head.flat_join h _
  · simp only [Evidence.head_join, Evidence.Head.join_join_self]
  · simp only [Evidence.isNullable_join]
    cases a.isNullable <;> cases b.isNullable <;> rfl

theorem evidence_join_join_of_empty {a b : Evidence Shape} (hd : a.DistinctKeys)
    (ha : a.KeepsExamples) (hb : b = .unknown ∨ b = .null) :
    ofCounts.evidence ((a.join b).join a) = ofCounts.evidence (a.join b) := by
  rcases hb with rfl | rfl
  · rw [Evidence.join_unknown, evidence_join_self hd ha]
  · rw [Evidence.join_null, Evidence.intoNullable_join, evidence_intoNullable,
      evidence_join_self hd ha, evidence_intoNullable]

theorem evidence_join_join_self {a b : Evidence Shape} (hd : a.DistinctKeys) (ha : a.KeepsExamples)
    (hb : b.KeepsExamples) :
    ofCounts.evidence ((a.join b).join a) = ofCounts.evidence (a.join b) := by
  induction a using Evidence.shape_induction generalizing b with
  | unknown => rw [Evidence.join_unknown]
  | null => rw [Evidence.null_join, Evidence.join_null, Evidence.intoNullable_intoNullable]
  | anything m => rw [join_join_self_of_flat (Evidence.Head.flat_join rfl _)]
  | scalar j m => rw [join_join_self_of_flat (Evidence.Head.flat_join rfl _)]
  | array x m ih =>
    cases b with
    | unknown => exact evidence_join_join_of_empty hd ha (.inl rfl)
    | null => exact evidence_join_join_of_empty hd ha (.inr rfl)
    | array y n =>
      change Evidence.array (ofCounts.evidence ((x.join y).join x)) (m || n || m) =
        .array (ofCounts.evidence (x.join y)) (m || n)
      rw [ih hd.of_array ha.of_array hb.of_array, Bool.or_right_comm, Bool.or_self]
    | _ => rw [join_join_self_of_flat rfl]
  | dictionary x m ih =>
    cases b with
    | unknown => exact evidence_join_join_of_empty hd ha (.inl rfl)
    | null => exact evidence_join_join_of_empty hd ha (.inr rfl)
    | dictionary y n =>
      change Evidence.dictionary (ofCounts.evidence ((x.join y).join x)) (m || n || m) =
        .dictionary (ofCounts.evidence (x.join y)) (m || n)
      rw [ih hd.of_dictionary ha.of_dictionary hb.of_dictionary, Bool.or_right_comm, Bool.or_self]
    | _ => rw [join_join_self_of_flat rfl]
  | object s m ih =>
    cases b with
    | unknown => exact evidence_join_join_of_empty hd ha (.inl rfl)
    | null => exact evidence_join_join_of_empty hd ha (.inr rfl)
    | object t n =>
      obtain ⟨hnames, htypes⟩ := Evidence.distinctKeys_object.mp hd
      have hs := ha.of_object
      have ht := hb.of_object
      have hmerge : ofCounts.shape ((s.merge t).merge s) = ofCounts.shape (s.merge t) :=
        shape_merge_merge_self hnames (fun f hf => ⟨htypes f hf, hs f hf⟩) fun f hf g hg =>
          ⟨(ht g hg).1, ih f hf (htypes f hf) (hs f hf).2 (ht g hg).2⟩
      change Evidence.object (ofCounts.shape ((s.merge t).merge s)) (m || n || m) =
        .object (ofCounts.shape (s.merge t)) (m || n)
      rw [hmerge, Bool.or_right_comm, Bool.or_self]
    | _ => rw [join_join_self_of_flat rfl]

/-- Evidence that is among some evidence adds nothing but counts to it. -/
theorem evidence_joinAll_join {es : List (Evidence Shape)}
    (h : ∀ e ∈ es, e.DistinctKeys ∧ e.KeepsExamples) {e : Evidence Shape} (he : e ∈ es) :
    ofCounts.evidence ((Evidence.joinAll es).join e) = ofCounts.evidence (Evidence.joinAll es) := by
  obtain ⟨before, after, rfl⟩ := List.append_of_mem he
  obtain ⟨hd, hself⟩ := h e he
  have hbefore : ∀ x ∈ before, x.KeepsExamples :=
    fun x hx => (h x (List.mem_append_left _ hx)).2
  have hrest : ∀ x ∈ e :: after, x.KeepsExamples :=
    fun x hx => (h x (List.mem_append_right _ hx)).2
  have hafter := (List.forall_mem_cons.mp hrest).2
  have hlast := Evidence.KeepsExamples.joinAll hafter
  rw [Evidence.joinAll_append hbefore hrest, Evidence.joinAll_cons hself hafter,
    Evidence.join_assoc (.joinAll hbefore) (hself.join hlast) hself,
    evidence_join _ (Evidence.joinAll before), evidence_join_join_self hd hself hlast,
    ← evidence_join]

/-- Any number of pieces that are there already add nothing but counts. -/
theorem evidence_joinAll_append {es fs : List (Evidence Shape)}
    (h : ∀ e ∈ es, e.DistinctKeys ∧ e.KeepsExamples) (hfs : fs ⊆ es) :
    ofCounts.evidence (Evidence.joinAll (es ++ fs)) = ofCounts.evidence (Evidence.joinAll es) := by
  rw [Evidence.joinAll, List.foldl_append, ← Evidence.joinAll, evidence_foldl_join]
  induction fs with
  | nil => rfl
  | cons f fs ih =>
    obtain ⟨hf, hfs⟩ := List.cons_subset.mp hfs
    rw [List.map_cons, List.foldl_cons, ← evidence_join, evidence_joinAll_join h hf]
    exact ih hfs

end Redaction

end Specimen
