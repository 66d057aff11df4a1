import Specimen.Proofs.Classes.Separation
import Specimen.Proofs.Inference.Soundness
import Specimen.Proofs.Model.Places

/-! What the order of the documents changes.

The evidence of a run does not depend on the order of its documents, up to the order of fields, counts
and examples. The classes do: a shape joins the first class it is compatible with, and compatibility is
not transitive. An object with a null may share a class with one that has a number under the key, or with
one that has a boolean, and the first to come decides (`order_changes_kinds`).

That is all that the order changes. Two orders lead to models that say the same everywhere just if
neither makes one class of two places that the other tells apart (`describe_eq_iff`): what a model tells
at a place was seen at a place of the same class, and if the other order has not separated the two it
must tell as much. -/
namespace Specimen

namespace ClassTable

/-- A table that backs and represents the evidence of a run. -/
structure Solves (e : Evidence Shape) (t : ClassTable) (root : Evidence ClassId) : Prop where
  wellFormed : t.WellFormed
  separated : t.Separated
  refersBelow : root.RefersBelow t.entries.length
  fits : e.Fits t.Represents root
  backed : root.BackedBy (· = e)
  supported : t.Supported (t.Occurs e root)

theorem solves_internRoot {e : Evidence Shape} (he : e.DistinctKeys) :
    Solves e (internRoot e {}).2 (internRoot e {}).1 where
  wellFormed := (wellFormed_internRoot he).1
  separated := (Run.separated (.internRoot .refl he)).2
  refersBelow := (wellFormed_internRoot he).2
  fits := internRoot_fits he {}
  backed := (internRoot_supported he).1
  supported := (internRoot_supported he).2

section TwoRuns
variable {e e' : Evidence Shape} {t t' : ClassTable} {root root' : Evidence ClassId}

/-- Two tables tell the same of mates of the first. -/
def KeepsMates (t : ClassTable) (root : Evidence ClassId) (t' : ClassTable)
    (root' : Evidence ClassId) : Prop :=
  ∀ p q, t.Mates root p q → t'.describe root' p = t'.describe root' q

/-- Whatever a table shows at a place, another table that keeps its mates has at that place a type of the
kind and the nullability of one that shows at least that. -/
theorem Solves.tells (h : Solves e t root) (h' : Solves e' t' root') (hle : e.Le e') (hge : e'.Le e)
    (hkeep : KeepsMates t root t' root') {p : Path} {τ : Evidence ClassId}
    (hp : root.at? t.fieldsOf p = some τ) {sight : Evidence.Sight} (hs : τ.Shows sight) :
    ∃ τ' b : Evidence ClassId, root'.at? t'.fieldsOf p = some τ' ∧ b.ShowsAtLeast sight ∧
      b.isNullable = τ'.isNullable ∧ b.head.kind b.isNullable = τ'.head.kind τ'.isNullable := by
  obtain ⟨a, _, ⟨q, hmate, ha⟩, ⟨⟩, hshows⟩ := backed_at h.backed h.supported hp [] τ rfl sight hs
  obtain ⟨a', ha', hle', hge'⟩ := Evidence.at?_of_le_le hle hge ha
  obtain ⟨b, hb, hfit⟩ := at?_of_fits h'.fits ha'
  have hshows' : a'.Shows sight := by
    obtain ⟨hhead, hnull⟩ := Evidence.head_eq_of_le_le hle' hge'
    cases sight with
    | kind head => exact hhead.symm.trans hshows
    | null => exact hnull.symm.trans hshows
  have hdesc := hkeep p q hmate
  rw [describe, describe, hb, Option.map_some] at hdesc
  obtain ⟨τ', hτ', hpair⟩ := Option.map_eq_some_iff.mp hdesc
  rw [Prod.mk.injEq] at hpair
  exact ⟨τ', b, hτ', hfit.showsAtLeast hshows', hpair.2.symm, hpair.1.symm⟩

/-- A null at a place is a null there in the other table. -/
theorem Solves.isNullable_of (h : Solves e t root) (h' : Solves e' t' root') (hle : e.Le e')
    (hge : e'.Le e) (hkeep : KeepsMates t root t' root') {p : Path} {τ τ' : Evidence ClassId}
    (hp : root.at? t.fieldsOf p = some τ) (hp' : root'.at? t'.fieldsOf p = some τ')
    (hn : τ.isNullable = true) : τ'.isNullable = true := by
  obtain ⟨τ'', b, hp'', hb, hnull, _⟩ := h.tells h' hle hge hkeep hp (show τ.Shows .null from hn)
  rw [hp'] at hp''
  cases hp''
  exact hnull.symm.trans hb

/-- Tables of the same evidence that keep each other's mates say the same everywhere. -/
theorem Solves.describe_eq (h : Solves e t root) (h' : Solves e' t' root') (hle : e.Le e')
    (hge : e'.Le e) (hkeep : KeepsMates t root t' root') (hkeep' : KeepsMates t' root' t root)
    (p : Path) : t.describe root p = t'.describe root' p := by
  cases hp : root.at? t.fieldsOf p with
  | none =>
    cases hp' : root'.at? t'.fieldsOf p with
    | none => rw [describe, describe, hp, hp']
    | some τ' =>
      obtain ⟨τ, _, hτ, _⟩ := h'.tells h hge hle hkeep' hp' (show τ'.Shows (.kind τ'.head) from rfl)
      rw [hp] at hτ
      cases hτ
  | some τ =>
    obtain ⟨τ', b, hp', hb, hbn, hbk⟩ := h.tells h' hle hge hkeep hp (show τ.Shows (.kind τ.head) from rfl)
    obtain ⟨_, b', hτ, hb', hbn', hbk'⟩ :=
      h'.tells h hge hle hkeep' hp' (show τ'.Shows (.kind τ'.head) from rfl)
    rw [hp] at hτ
    cases hτ
    have hnull : τ.isNullable = τ'.isNullable := Bool.eq_iff_iff.mpr
      ⟨h.isNullable_of h' hle hge hkeep hp hp', h'.isNullable_of h hge hle hkeep' hp' hp⟩
    rw [hbn, ← hnull] at hbk
    rw [hbn'] at hbk'
    have hkind := Evidence.Head.kind_eq_of_le (Evidence.head_allows τ)
      (hnull ▸ Evidence.head_allows τ') hb hbk hb' hbk'
    rw [describe, describe, hp, hp', Option.map_some, Option.map_some, ← hnull, hkind]

/-! ### Settled evidence -/

/-- Of settled evidence, exactly the objects of one sketch share a class. -/
theorem Solves.sameClassAt_iff (h : Solves e t root) (hset : e.Settled Shape.fields) {p q : Path} :
    t.SameClassAt root p q ↔ e.AlikeAt p q := by
  constructor
  · rintro ⟨c, m, n, hp, hq⟩
    have hroot := sketch_eq_of_fits h.fits hset
    obtain ⟨a, ha, hca⟩ := Evidence.exists_at?_of_sketch_eq hroot.symm hp
    obtain ⟨b, hb, hcb⟩ := Evidence.exists_at?_of_sketch_eq hroot.symm hq
    have hsketch : a.sketch Shape.fields = b.sketch Shape.fields := by
      rw [← hca, ← hcb, Evidence.sketch_object c m n]
    have hhead := Evidence.head_of_sketch_eq hca
    have hhead' := Evidence.head_of_sketch_eq hcb
    cases a with
    | object s m =>
      cases b with
      | object s' n => exact ⟨s, m, s', n, ha, hb, hsketch⟩
      | _ => cases hhead'
    | _ => cases hhead
  · rintro ⟨s, m, s', n, hp, hq, hsketch⟩
    obtain ⟨τ, hτ, hfit⟩ := at?_of_fits h.fits hp
    obtain ⟨τ', hτ', hfit'⟩ := at?_of_fits h.fits hq
    rw [sketch_eq_of_fits hfit (hset.at? hp), sketch_eq_of_fits hfit' (hset.at? hq)] at hsketch
    cases hfit with
    | @object _ c _ k hsc _ =>
      cases hfit' with
      | @object _ c' _ k' hsc' _ =>
        have hc : c = c' := by
          refine h.separated.eq_of_sketch_eq h.wellFormed hsc.mem_ids hsc'.mem_ids ?_
          rw [Evidence.sketch_object c false k, hsketch, Evidence.sketch_object c' k' false]
        subst hc
        exact ⟨c, k, k', hτ, hτ'⟩

theorem Solves.keepsMates_of_settled (h : Solves e t root) (h' : Solves e' t' root')
    (hle : e.Le e') (hge : e'.Le e) (hset : e.Settled Shape.fields)
    (hset' : e'.Settled Shape.fields) : KeepsMates t root t' root' := by
  rintro p q (rfl | ⟨p₀, q₀, r, hr, rfl, rfl, hc⟩)
  · rfl
  · have halike := ((h.sameClassAt_iff hset).mp hc).of_le_le hle hge
    exact describe_append_of_sameClassAt ((h'.sameClassAt_iff hset').mpr halike) hr

end TwoRuns

end ClassTable

/-- The evidence of a list of documents does not depend on their order. -/
theorem Settings.evidenceOf_le_of_perm (s : Settings) {documents documents' : List Json}
    (h : documents.Perm documents') : (s.evidenceOf documents).Le (s.evidenceOf documents') :=
  Evidence.joinAll_le_of_subset
    ((h.flatMap_right Observer.rootSamples).map s.observer.observeRoot).subset

/-- What the evidence of a run is interned into. -/
def Settings.interned (s : Settings) (documents : List Json) : Evidence ClassId × ClassTable :=
  ClassTable.internRoot (s.evidenceOf documents) {}

section Runs
variable (s : Settings) {documents documents' : List Json} (h : ∀ d ∈ documents, d.DistinctKeys)
include h

theorem Settings.solves_interned :
    ClassTable.Solves (s.evidenceOf documents) (s.interned documents).2 (s.interned documents).1 :=
  ClassTable.solves_internRoot <|
    s.observer.distinctKeys_evidenceOf fun _ hx => Inference.distinctKeys_of_mem_samplesOf h hx

theorem describe_inferValues (p : Path) : (inferValues s documents).describe p =
    (s.interned documents).2.describe (s.interned documents).1 p := by
  have hrun := s.solves_interned h
  obtain ⟨names, heq⟩ := inferValues_eq s documents
  rw [heq]
  exact describe_freeze names _ hrun.wellFormed hrun.refersBelow p

theorem sameClassAt_inferValues {p q : Path}
    (hc : (s.interned documents).2.SameClassAt (s.interned documents).1 p q) :
    (inferValues s documents).SameClassAt p q := by
  have hrun := s.solves_interned h
  obtain ⟨names, heq⟩ := inferValues_eq s documents
  rw [heq]
  exact sameClassAt_freeze names _ hrun.wellFormed hrun.refersBelow hc

theorem keepsMates_of_keepsTogether (h' : ∀ d ∈ documents', d.DistinctKeys)
    (hkeep : (inferValues s documents).KeepsTogether (inferValues s documents')) :
    (s.interned documents).2.KeepsMates (s.interned documents).1
      (s.interned documents').2 (s.interned documents').1 := by
  rintro p q (rfl | ⟨p₀, q₀, r, hr, rfl, rfl, hc⟩)
  · rfl
  · rw [← describe_inferValues s h', ← describe_inferValues s h']
    exact hkeep p₀ q₀ (sameClassAt_inferValues s h hc) r hr

end Runs

/-- Two orders of the documents lead to models that say the same at every place just if neither model
has one class at two places of which the other says different things further down. -/
theorem describe_eq_iff (s : Settings) {documents documents' : List Json}
    (hperm : documents.Perm documents') (h : ∀ d ∈ documents, d.DistinctKeys) :
    (∀ p, (inferValues s documents).describe p = (inferValues s documents').describe p) ↔
      (inferValues s documents).KeepsTogether (inferValues s documents') ∧
        (inferValues s documents').KeepsTogether (inferValues s documents) := by
  constructor
  · intro heq
    constructor
    · intro p q hc r hr
      rw [← heq, ← heq]
      exact TypeModel.describe_append_of_sameClassAt hc hr
    · intro p q hc r hr
      rw [heq, heq]
      exact TypeModel.describe_append_of_sameClassAt hc hr
  · rintro ⟨hkeep, hkeep'⟩ p
    have h' : ∀ d ∈ documents', d.DistinctKeys := fun d hd => h d (hperm.mem_iff.mpr hd)
    rw [describe_inferValues s h, describe_inferValues s h']
    exact (s.solves_interned h).describe_eq (s.solves_interned h')
      (s.evidenceOf_le_of_perm hperm) (s.evidenceOf_le_of_perm hperm.symm)
      (keepsMates_of_keepsTogether s h h' hkeep) (keepsMates_of_keepsTogether s h' h hkeep') p

/-- The order of the documents does not matter where they settle every kind: where no place has held
nothing but nulls, and no list and no dictionary has been empty throughout. -/
theorem describe_eq_of_settled (s : Settings) {documents documents' : List Json}
    (hperm : documents.Perm documents') (h : ∀ d ∈ documents, d.DistinctKeys)
    (hset : (s.evidenceOf documents).Settled Shape.fields) (p : Path) :
    (inferValues s documents).describe p = (inferValues s documents').describe p := by
  have h' : ∀ d ∈ documents', d.DistinctKeys := fun d hd => h d (hperm.mem_iff.mpr hd)
  have hle := s.evidenceOf_le_of_perm hperm
  have hge := s.evidenceOf_le_of_perm hperm.symm
  have hset' := hset.of_le_le hle hge
  have hrun := s.solves_interned h
  have hrun' := s.solves_interned h'
  rw [describe_inferValues s h, describe_inferValues s h']
  exact hrun.describe_eq hrun' hle hge (hrun.keepsMates_of_settled hrun' hle hge hset hset')
    (hrun'.keepsMates_of_settled hrun hge hle hset' hset) p

/-! ### An order that matters -/

/-- Three objects with one key, which holds a null, a number and a boolean. -/
def nullNumberBoolean : List Json :=
  [.object [("p", .object [("x", .null)])], .object [("q", .object [("x", .number (.int 1))])],
    .object [("r", .object [("x", .bool true)])]]

theorem distinctKeys_nullNumberBoolean : ∀ d ∈ nullNumberBoolean, d.DistinctKeys := by
  simp [nullNumberBoolean, Json.distinctKeys_object, Json.DistinctKeys.null,
    Json.DistinctKeys.number, Json.DistinctKeys.bool]

/-- The object with the null shares a class with the number or with the boolean, by the order of the
documents. -/
theorem order_changes_kinds :
    nullNumberBoolean.Perm nullNumberBoolean.reverse ∧
      (∀ d ∈ nullNumberBoolean, d.DistinctKeys) ∧
      (inferValues {} nullNumberBoolean).describe [.field "p", .field "x"] =
        some (.nullableInteger, true) ∧
      (inferValues {} nullNumberBoolean.reverse).describe [.field "p", .field "x"] =
        some (.nullableBoolean, true) :=
  ⟨(List.reverse_perm _).symm, distinctKeys_nullNumberBoolean, by decide +kernel, by decide +kernel⟩

/-- Three objects with one key, two of them with numbers, of which one takes 64 bits. -/
def numbersBoolean : List Json :=
  [.object [("p", .object [("x", .number (.int 1))])],
    .object [("q", .object [("x", .number (.int 3000000000))])],
    .object [("r", .object [("x", .bool true)])]]

theorem distinctKeys_numbersBoolean : ∀ d ∈ numbersBoolean, d.DistinctKeys := by
  simp [numbersBoolean, Json.distinctKeys_object, Json.DistinctKeys.number, Json.DistinctKeys.bool]

/-- An object with a scalar under its key, seen once and missing elsewhere. -/
def seenOnce (k : Scalar) : Evidence Shape := .object ⟨[⟨"x", .scalar k false, 1, []⟩], 1⟩ true

theorem settled_seenOnce (k : Scalar) : (seenOnce k).Settled Shape.fields := by
  refine Evidence.settled_object (fun f hf => ?_) true
  cases List.mem_singleton.mp hf
  exact Evidence.settled_scalar k false

theorem settled_numbersBoolean : (Settings.evidenceOf {} numbersBoolean).Settled Shape.fields := by
  have hevidence : Settings.evidenceOf {} numbersBoolean = .object ⟨[⟨"p", seenOnce .integer, 1, []⟩,
      ⟨"q", seenOnce .long, 1, []⟩, ⟨"r", seenOnce .boolean, 1, []⟩], 3⟩ false := rfl
  rw [hevidence]
  refine Evidence.settled_object ?_ false
  simp only [List.forall_mem_cons]
  exact ⟨settled_seenOnce .integer, settled_seenOnce .long, settled_seenOnce .boolean,
    List.forall_mem_nil _⟩

/-- One of the two orders of the null, the number and the boolean has made one class of two places that the
other tells apart. The numbers share a class in both orders of theirs. -/
theorem describe_eq_iff_reverse :
    ¬ ((inferValues {} nullNumberBoolean).KeepsTogether
        (inferValues {} nullNumberBoolean.reverse) ∧
      (inferValues {} nullNumberBoolean.reverse).KeepsTogether
        (inferValues {} nullNumberBoolean)) ∧
      (inferValues {} numbersBoolean).SameClassAt [.field "p"] [.field "q"] ∧
      (inferValues {} numbersBoolean).KeepsTogether (inferValues {} numbersBoolean.reverse) ∧
      (inferValues {} numbersBoolean.reverse).KeepsTogether (inferValues {} numbersBoolean) := by
  refine ⟨fun h => ?_, ⟨⟨0⟩, _, _, rfl, rfl⟩, ?_⟩
  · have heq := (describe_eq_iff {} (List.reverse_perm _).symm distinctKeys_nullNumberBoolean).mpr h
    have hx := heq [.field "p", .field "x"]
    revert hx
    decide +kernel
  · have hperm := (List.reverse_perm numbersBoolean).symm
    exact (describe_eq_iff {} hperm distinctKeys_numbersBoolean).mp
      (describe_eq_of_settled {} hperm distinctKeys_numbersBoolean settled_numbersBoolean)

end Specimen
