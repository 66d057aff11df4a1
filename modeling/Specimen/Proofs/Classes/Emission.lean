import Mathlib.Data.List.Nodup
import Mathlib.Logic.Relation
import Specimen.Classes.Emission
import Specimen.Proofs.Classes.Registration

/-! The emission order lists the classes that the root leads to, each once, and a class after those that it
leads to unless they lead back to it.

`EmissionWalk.visit` carries fuel. `Walks` is the walk without it: a walk along a list of types, each of
which leads to no class, to one already entered, or to one that is entered, walked and completed. Every
level of the recursion has entered another class, so the number of classes is fuel enough
(`walks_visit`), and everything else is by induction on the walk: what it has completed (`Completes`), and
what it is still inside of (`Settles`), which all leads to where the walk is. -/
namespace Specimen

namespace ClassTable

/-- The class is inside the type, or inside a field of a class that the type leads to. -/
inductive Reaches (t : ClassTable) : Evidence ClassId → ClassId → Prop where
  | here {e c} (h : e.innermost? = some c) : Reaches t e c
  | field {e b c f} (h : e.innermost? = some b) (hf : f ∈ t.fieldsOf b) (hc : Reaches t f.type c) :
    Reaches t e c

theorem Reaches.snoc {t : ClassTable} {e : Evidence ClassId} {b c : ClassId} {f : Field ClassId}
    (h : t.Reaches e b) (hf : f ∈ t.fieldsOf b) (hc : f.type.innermost? = some c) :
    t.Reaches e c := by
  induction h with
  | here h => exact .field h hf (.here hc)
  | field h hg _ ih => exact .field h hg (ih hf)

theorem Reaches.mem_ids {t : ClassTable} (ht : t.InRange) {e : Evidence ClassId} {c : ClassId}
    (h : t.Reaches e c) (he : e.RefersBelow t.entries.length) : c ∈ t.ids := by
  induction h with
  | here h => exact ClassTable.mem_ids.mpr (he _ h)
  | field _ hf _ ih => exact ih (ht.refersBelow hf)

/-- A field of the first class leads to the second. -/
def LeadsTo (t : ClassTable) (b c : ClassId) : Prop := ∃ f ∈ t.fieldsOf b, f.type.innermost? = some c

end ClassTable

namespace EmissionWalk
variable {t : ClassTable}

/-- From one state of the walk to another along a list of types. -/
inductive Walks (t : ClassTable) : List (Evidence ClassId) → EmissionWalk → EmissionWalk → Prop where
  | nil {w} : Walks t [] w w
  | leaf {e es w w'} (h : e.innermost? = none) (hrest : Walks t es w w') : Walks t (e :: es) w w'
  | known {e es c w w'} (h : e.innermost? = some c) (hc : c ∈ w.entered) (hrest : Walks t es w w') :
    Walks t (e :: es) w w'
  | enter {e es c w u w'} (h : e.innermost? = some c) (hc : c ∉ w.entered)
    (hinside : Walks t ((t.fieldsOf c).map Field.type) { w with entered := c :: w.entered } u)
    (hrest : Walks t es { u with order := u.order ++ [c] } w') : Walks t (e :: es) w w'

theorem Walks.append {es fs : List (Evidence ClassId)} {u v w : EmissionWalk} (h : Walks t es u v)
    (h' : Walks t fs v w) : Walks t (es ++ fs) u w := by
  induction h with
  | nil => exact h'
  | leaf h _ ih => exact .leaf h (ih h')
  | known h hc _ ih => exact .known h hc (ih h')
  | enter h hc hinside _ _ ih => exact .enter h hc hinside (ih h')

/-! ### Enough fuel -/

/-- The classes entered are different classes of the table. -/
structure Within (t : ClassTable) (w : EmissionWalk) : Prop where
  nodup : w.entered.Nodup
  subset : w.entered ⊆ t.ids

theorem Within.length_le {w : EmissionWalk} (hw : w.Within t) :
    w.entered.length ≤ t.entries.length :=
  ClassTable.length_le_of_subset_ids hw.nodup hw.subset

theorem Within.enter {w : EmissionWalk} (hw : w.Within t) {c : ClassId} (hc : c ∉ w.entered)
    (hid : c ∈ t.ids) : Within t { w with entered := c :: w.entered } where
  nodup := List.nodup_cons.mpr ⟨hc, hw.nodup⟩
  subset := List.cons_subset.mpr ⟨hid, hw.subset⟩

/-- A walk stays within the table and only enters more. -/
theorem Walks.within (ht : t.InRange) {es : List (Evidence ClassId)} {w w' : EmissionWalk}
    (h : Walks t es w w') (hes : ∀ e ∈ es, e.RefersBelow t.entries.length) (hw : w.Within t) :
    w'.Within t ∧ w.entered.length ≤ w'.entered.length := by
  induction h with
  | nil => exact ⟨hw, Nat.le_refl _⟩
  | leaf _ _ ih => exact ih (List.forall_mem_cons.mp hes).2 hw
  | known _ _ _ ih => exact ih (List.forall_mem_cons.mp hes).2 hw
  | @enter e es c w u w' h hc _ _ ihinside ihrest =>
    obtain ⟨he, hes⟩ := List.forall_mem_cons.mp hes
    have hfields : ∀ e ∈ (t.fieldsOf c).map Field.type, e.RefersBelow t.entries.length :=
      List.forall_mem_map.mpr fun f hf => ht.refersBelow hf
    obtain ⟨hu, hlen⟩ := ihinside hfields (hw.enter hc (ClassTable.mem_ids.mpr (he _ h)))
    obtain ⟨hw', hlen'⟩ := ihrest hes ⟨hu.nodup, hu.subset⟩
    exact ⟨hw', Nat.le_trans (Nat.le_of_succ_le hlen) hlen'⟩

/-- Walks from one field to the next make a walk, the fuel counted by the classes entered meanwhile. -/
theorem walks_foldl (ht : t.InRange) {depth : Nat} {fs : List (Field ClassId)} {w : EmissionWalk}
    (hvisit : ∀ {e w}, Evidence.RefersBelow t.entries.length e → w.Within t →
      t.entries.length < w.entered.length + depth → Walks t [e] w (visit t depth e w))
    (hfs : ∀ f ∈ fs, f.type.RefersBelow t.entries.length) (hw : w.Within t)
    (hdepth : t.entries.length < w.entered.length + depth) :
    Walks t (fs.map Field.type) w (fs.foldl (fun w f => visit t depth f.type w) w) := by
  induction fs generalizing w with
  | nil => exact .nil
  | cons f fs ih =>
    obtain ⟨hf, hfs⟩ := List.forall_mem_cons.mp hfs
    have hfirst := hvisit hf hw hdepth
    obtain ⟨hw', hgrow⟩ := hfirst.within ht (List.forall_mem_singleton.mpr hf) hw
    exact hfirst.append (ih hfs hw' (by omega))

/-- With fuel for every class not entered, the walk is complete. -/
theorem walks_visit (ht : t.InRange) (depth : Nat) {e : Evidence ClassId} {w : EmissionWalk}
    (he : e.RefersBelow t.entries.length) (hw : w.Within t)
    (hdepth : t.entries.length < w.entered.length + depth) :
    Walks t [e] w (visit t depth e w) := by
  induction depth generalizing e w with
  | zero =>
    have := hw.length_le
    omega
  | succ depth ih =>
    simp only [visit]
    cases h : e.innermost? with
    | none => exact .leaf h .nil
    | some c =>
      by_cases hc : c ∈ w.entered
      · simp only [List.contains_iff_mem.mpr hc, if_true]
        exact .known h hc .nil
      · have hcontains : w.entered.contains c = false := by simpa using hc
        simp only [hcontains, Bool.false_eq_true, if_false]
        refine .enter h hc (walks_foldl ht ih (fun f hf => ht.refersBelow hf) ?_ ?_) .nil
        · exact hw.enter hc (ClassTable.mem_ids.mpr (he c h))
        · simp only [List.length_cons]
          omega

/-! ### What a complete walk has done -/

/-- The classes in `added` were completed, in this order. Each is new, all that they and the types lead
to has been entered, and nothing else has. -/
structure Completes (t : ClassTable) (es : List (Evidence ClassId)) (w w' : EmissionWalk)
    (added : List ClassId) : Prop where
  order : w'.order = w.order ++ added
  entered : ∀ c, c ∈ w'.entered ↔ c ∈ w.entered ∨ c ∈ added
  nodup : added.Nodup
  fresh : ∀ c ∈ added, c ∉ w.entered
  starts : ∀ e ∈ es, ∀ c, e.innermost? = some c → c ∈ w'.entered
  closed : ∀ b ∈ added, ∀ f ∈ t.fieldsOf b, ∀ c, f.type.innermost? = some c → c ∈ w'.entered
  reached : ∀ c ∈ added, ∃ e ∈ es, t.Reaches e c

theorem Completes.skip {e : Evidence ClassId} {es : List (Evidence ClassId)} {w w' : EmissionWalk}
    {added : List ClassId} (h : Completes t es w w' added)
    (he : ∀ c, e.innermost? = some c → c ∈ w.entered) : Completes t (e :: es) w w' added where
  order := h.order
  entered := h.entered
  nodup := h.nodup
  fresh := h.fresh
  starts := List.forall_mem_cons.mpr ⟨fun c hc => (h.entered c).mpr (.inl (he c hc)), h.starts⟩
  closed := h.closed
  reached c hc := by
    obtain ⟨e', he', hr⟩ := h.reached c hc
    exact ⟨e', List.mem_cons_of_mem e he', hr⟩

theorem Walks.completes {es : List (Evidence ClassId)} {w w' : EmissionWalk}
    (h : Walks t es w w') : ∃ added, Completes t es w w' added := by
  induction h with
  | nil =>
    refine ⟨[], by simp, by simp, .nil, ?_, ?_, ?_, ?_⟩ <;> exact fun _ hc => nomatch hc
  | leaf h _ ih =>
    obtain ⟨added, hadded⟩ := ih
    exact ⟨added, hadded.skip fun c hc => by rw [h] at hc; cases hc⟩
  | known h hc _ ih =>
    obtain ⟨added, hadded⟩ := ih
    exact ⟨added, hadded.skip fun c hc' => by rw [h] at hc'; cases hc'; exact hc⟩
  | @enter e es c w u w' h hc _ _ ihinside ihrest =>
    obtain ⟨inner, hin⟩ := ihinside
    obtain ⟨later, hl⟩ := ihrest
    -- Everything entered inside the class is entered for good.
    have hkeep : ∀ b ∈ u.entered, b ∈ w'.entered := fun b hb => (hl.entered b).mpr (.inl hb)
    have hu : ∀ b, b ∈ u.entered ↔ (b = c ∨ b ∈ w.entered) ∨ b ∈ inner := fun b => by
      rw [hin.entered, List.mem_cons]
    refine ⟨inner ++ c :: later, ?_, fun b => ?_, ?_, fun b hb => ?_, ?_, ?_, ?_⟩
    · rw [hl.order, hin.order]
      simp
    · rw [hl.entered, hu, List.mem_append, List.mem_cons]
      tauto
    · have hci : c ∉ inner := fun hmem => hin.fresh c hmem (List.mem_cons_self ..)
      have hcl : c ∉ later := fun hmem => hl.fresh c hmem ((hu c).mpr (.inl (.inl rfl)))
      refine List.Nodup.append hin.nodup (List.nodup_cons.mpr ⟨hcl, hl.nodup⟩) ?_
      intro b hbi hbl
      rcases List.mem_cons.mp hbl with rfl | hbl
      · exact hci hbi
      · exact hl.fresh b hbl ((hu b).mpr (.inr hbi))
    · rw [List.mem_append, List.mem_cons] at hb
      rcases hb with hb | rfl | hb
      · exact fun hw => hin.fresh b hb (List.mem_cons_of_mem c hw)
      · exact hc
      · exact fun hw => hl.fresh b hb ((hu b).mpr (.inl (.inr hw)))
    · refine List.forall_mem_cons.mpr ⟨fun b hb => ?_, hl.starts⟩
      rw [h] at hb
      cases hb
      exact hkeep c ((hu c).mpr (.inl (.inl rfl)))
    · intro b hb f hf d hd
      rw [List.mem_append, List.mem_cons] at hb
      rcases hb with hb | rfl | hb
      · exact hkeep d (hin.closed b hb f hf d hd)
      · exact hkeep d (hin.starts f.type (List.mem_map_of_mem hf) d hd)
      · exact hl.closed b hb f hf d hd
    · intro b hb
      rw [List.mem_append, List.mem_cons] at hb
      rcases hb with hb | rfl | hb
      · obtain ⟨type, htype, hr⟩ := hin.reached b hb
        obtain ⟨f, hf, rfl⟩ := List.mem_map.mp htype
        exact ⟨e, List.mem_cons_self .., .field h hf hr⟩
      · exact ⟨e, List.mem_cons_self .., .here h⟩
      · obtain ⟨e', he', hr⟩ := hl.reached b hb
        exact ⟨e', List.mem_cons_of_mem e he', hr⟩

/-! ### Classes that are not completed yet -/

/-- The walk is inside the classes in `inside` and has completed all others that were entered. A completed
class leads to those completed before it, to itself, and to classes that lead back to it. -/
structure Settles (t : ClassTable) (inside : List ClassId) (w : EmissionWalk) : Prop where
  entered : ∀ c ∈ w.entered, c ∈ w.order ∨ c ∈ inside
  leadsBack : ∀ {before b after}, w.order = before ++ b :: after → ∀ c, t.LeadsTo b c →
    c ∈ before ∨ c = b ∨ Relation.TransGen t.LeadsTo c b

theorem Settles.start : Settles t [] {} where
  entered _ hc := nomatch hc
  leadsBack horder := by simp at horder

theorem Settles.enter {inside : List ClassId} {w : EmissionWalk} (hw : w.Settles t inside)
    (c : ClassId) : Settles t (c :: inside) { w with entered := c :: w.entered } where
  entered b hb := by
    rcases List.mem_cons.mp hb with rfl | hb
    · exact .inr (List.mem_cons_self ..)
    · exact (hw.entered b hb).imp_right (List.mem_cons_of_mem c)
  leadsBack := hw.leadsBack

/-- A class is completed once all that it leads to has been entered. The classes that the walk is inside of
lead to it. -/
theorem Settles.complete {inside : List ClassId} {w : EmissionWalk} {c : ClassId}
    (hw : w.Settles t (c :: inside)) (hentered : ∀ d, t.LeadsTo c d → d ∈ w.entered)
    (hinside : ∀ b ∈ inside, Relation.TransGen t.LeadsTo b c) :
    Settles t inside { w with order := w.order ++ [c] } where
  entered b hb := by
    rw [List.mem_append, List.mem_singleton, or_assoc]
    exact (hw.entered b hb).imp_right List.mem_cons.mp
  leadsBack {before b after} horder d hd := by
    rcases List.eq_nil_or_concat after with rfl | ⟨after, last, rfl⟩
    · obtain ⟨rfl, hcb⟩ := List.append_inj' horder rfl
      cases hcb
      rcases hw.entered d (hentered d hd) with hdone | hopen
      · exact .inl hdone
      · exact .inr ((List.mem_cons.mp hopen).imp_right (hinside d))
    · rw [List.concat_eq_append, ← List.cons_append, ← List.append_assoc] at horder
      exact hw.leadsBack (List.append_inj' horder rfl).1 d hd

theorem Walks.settles {es : List (Evidence ClassId)} {w w' : EmissionWalk} (h : Walks t es w w')
    {inside : List ClassId}
    (hinside : ∀ b ∈ inside, ∀ e ∈ es, ∀ c, e.innermost? = some c → Relation.TransGen t.LeadsTo b c)
    (hw : w.Settles t inside) : w'.Settles t inside := by
  induction h generalizing inside with
  | nil => exact hw
  | leaf _ _ ih => exact ih (fun b hb e he => hinside b hb e (List.mem_cons_of_mem _ he)) hw
  | known _ _ _ ih => exact ih (fun b hb e he => hinside b hb e (List.mem_cons_of_mem _ he)) hw
  | @enter e es c w u w' h _ hwalk _ ihinside ihrest =>
    have hlead : ∀ b ∈ inside, Relation.TransGen t.LeadsTo b c :=
      fun b hb => hinside b hb e (List.mem_cons_self ..) c h
    have hu : u.Settles t (c :: inside) := by
      refine ihinside (fun b hb type htype d hd => ?_) (hw.enter c)
      obtain ⟨f, hf, rfl⟩ := List.mem_map.mp htype
      have hstep : t.LeadsTo c d := ⟨f, hf, hd⟩
      rcases List.mem_cons.mp hb with rfl | hb
      · exact .single hstep
      · exact (hlead b hb).tail hstep
    obtain ⟨_, hcompletes⟩ := hwalk.completes
    refine ihrest (fun b hb e he => hinside b hb e (List.mem_cons_of_mem _ he))
      (hu.complete (fun d ⟨f, hf, hd⟩ => ?_) hlead)
    exact hcompletes.starts f.type (List.mem_map_of_mem hf) d hd

/-- A walk ends in one way. -/
theorem Walks.unique {es : List (Evidence ClassId)} {w u v : EmissionWalk} (hu : Walks t es w u)
    (hv : Walks t es w v) : u = v := by
  induction hu generalizing v with
  | nil => cases hv; rfl
  | leaf h _ ih =>
    cases hv with
    | leaf _ hrest => exact ih hrest
    | known h' => cases h.symm.trans h'
    | enter h' => cases h.symm.trans h'
  | known h hc _ ih =>
    cases hv with
    | leaf h' => cases h.symm.trans h'
    | known _ _ hrest => exact ih hrest
    | enter h' hc' => cases h.symm.trans h'; exact absurd hc hc'
  | enter h hc _ _ ihinside ihrest =>
    cases hv with
    | leaf h' => cases h.symm.trans h'
    | known h' hc' => cases h.symm.trans h'; exact absurd hc' hc
    | enter h' _ hinside hrest =>
      cases h.symm.trans h'
      cases ihinside hinside
      exact ihrest hrest

end EmissionWalk

/-! ### The order -/

section Order
variable {t : ClassTable} {root : Evidence ClassId}

/-- The walk from the root ends, and what it has completed is the order. -/
theorem walks_emissionOrder (ht : t.InRange) (hroot : root.RefersBelow t.entries.length) :
    EmissionWalk.Walks t [root] {} (EmissionWalk.visit t (t.entries.length + 1) root {}) :=
  EmissionWalk.walks_visit ht (t.entries.length + 1) hroot ⟨.nil, List.nil_subset _⟩ (by simp)

theorem completes_emissionOrder (ht : t.InRange) (hroot : root.RefersBelow t.entries.length) :
    EmissionWalk.Completes t [root] {} (EmissionWalk.visit t (t.entries.length + 1) root {})
      (emissionOrder t root) := by
  obtain ⟨added, h⟩ := (walks_emissionOrder ht hroot).completes
  have horder : emissionOrder t root = added := h.order
  rwa [horder]

theorem nodup_emissionOrder (ht : t.InRange) (hroot : root.RefersBelow t.entries.length) :
    (emissionOrder t root).Nodup :=
  (completes_emissionOrder ht hroot).nodup

/-- The classes that are emitted are those that the root leads to. -/
theorem mem_emissionOrder (ht : t.InRange) (hroot : root.RefersBelow t.entries.length)
    {c : ClassId} : c ∈ emissionOrder t root ↔ t.Reaches root c := by
  have h := completes_emissionOrder ht hroot
  constructor
  · intro hc
    obtain ⟨e, he, hr⟩ := h.reached c hc
    rwa [← List.mem_singleton.mp he]
  · suffices hall : ∀ e, t.Reaches e c →
        (∀ b, e.innermost? = some b → b ∈ emissionOrder t root) → c ∈ emissionOrder t root by
      refine fun hr => hall root hr fun b hb => ?_
      have := (h.entered b).mp (h.starts root (List.mem_singleton.mpr rfl) b hb)
      exact this.resolve_left List.not_mem_nil
    intro e hr
    induction hr with
    | here hc => exact fun hstart => hstart _ hc
    | @field e b c f hb hf _ ih =>
      refine fun hstart => ih fun d hd => ?_
      have := (h.entered d).mp (h.closed b (hstart b hb) f hf d hd)
      exact this.resolve_left List.not_mem_nil

/-- A class leads to classes before it in the order, to itself, and to classes that lead back to it. -/
theorem leadsBack_emissionOrder (ht : t.InRange) (hroot : root.RefersBelow t.entries.length)
    {before after : List ClassId} {b c : ClassId}
    (horder : emissionOrder t root = before ++ b :: after) (hc : t.LeadsTo b c) :
    c ∈ before ∨ c = b ∨ Relation.TransGen t.LeadsTo c b := by
  have hsettles : EmissionWalk.Settles t [] (EmissionWalk.visit t (t.entries.length + 1) root {}) :=
    (walks_emissionOrder ht hroot).settles (fun _ hb => nomatch hb) .start
  exact hsettles.leadsBack horder c hc

/-- The class that the root leads to first is completed last. -/
theorem getLast?_emissionOrder (ht : t.InRange) (hroot : root.RefersBelow t.entries.length)
    {c : ClassId} (hc : root.innermost? = some c) : (emissionOrder t root).getLast? = some c := by
  have hwalk := walks_emissionOrder ht hroot
  unfold emissionOrder
  generalize EmissionWalk.visit t (t.entries.length + 1) root {} = w at hwalk
  cases hwalk with
  | leaf h => cases hc.symm.trans h
  | known _ hknown => cases hknown
  | enter h _ _ hrest =>
    cases hc.symm.trans h
    cases hrest
    exact List.getLast?_concat

end Order

end Specimen
