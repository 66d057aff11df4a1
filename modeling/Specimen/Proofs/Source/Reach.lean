import Mathlib.Data.List.Nodup
import Mathlib.Data.List.Perm.Basic
import Mathlib.Logic.Relation
import Specimen.Source.Rust

/-! What a search through a graph finds.

`search` carries fuel. `Searches` is the search without it, from a stack and the nodes expanded so far. Every
node taken off the stack was put there, and what is put there for a node is put there once: so the edges that
are left bound the nodes to come, and with fuel for them the search is complete (`searches_search`). Its answer
is whether the stack leads to the target (`Searches.iff_leads`), in whatever order the nodes are put on the
stack. -/
namespace Specimen.Source
variable {α : Type} [DecidableEq α] {next : α → List α} {target : α}

/-- From the stack and the nodes expanded so far to the answer. -/
inductive Searches (next : α → List α) (target : α) : List α → List α → Bool → Prop where
  | exhausted {seen} : Searches next target [] seen false
  | found {stack seen} : Searches next target (target :: stack) seen true
  | known {a stack seen answer} (hne : a ≠ target) (ha : a ∈ seen)
    (hrest : Searches next target stack seen answer) : Searches next target (a :: stack) seen answer
  | expand {a stack seen answer} (hne : a ≠ target) (ha : a ∉ seen)
    (hrest : Searches next target (next a ++ stack) (a :: seen) answer) :
    Searches next target (a :: stack) seen answer

/-! ### Enough fuel -/

/-- The edges that lead out of nodes not expanded yet. -/
def edgesLeft (next : α → List α) (nodes seen : List α) : List α :=
  (nodes.filter (· ∉ seen)).flatMap next

/-- To expand a node is to use up its edges. -/
theorem length_edgesLeft {nodes seen : List α} {a : α} (hnodes : nodes.Nodup)
    (hall : ∀ a, a ∉ nodes → next a = []) (ha : a ∉ seen) :
    (next a).length + (edgesLeft next nodes (a :: seen)).length =
      (edgesLeft next nodes seen).length := by
  have hfilter : nodes.filter (· ∉ a :: seen) = (nodes.filter (· ∉ seen)).erase a := by
    rw [(hnodes.filter _).erase_eq_filter, List.filter_filter]
    exact List.filter_congr fun b _ => Bool.eq_iff_iff.mpr (by simp)
  by_cases hmem : a ∈ nodes
  · have hperm : (nodes.filter (· ∉ seen)).Perm (a :: nodes.filter (· ∉ a :: seen)) := by
      rw [hfilter]
      exact List.perm_cons_erase (List.mem_filter.mpr ⟨hmem, by simpa using ha⟩)
    have hlength := (hperm.flatMap_right next).length_eq
    rw [List.flatMap_cons, List.length_append] at hlength
    exact hlength.symm
  · have hout : a ∉ nodes.filter (· ∉ seen) := fun h => hmem (List.mem_filter.mp h).1
    rw [edgesLeft, hfilter, List.erase_of_not_mem hout, hall a hmem]
    exact Nat.zero_add _

/-- With fuel for the stack and for every edge that is left, the search is complete. -/
theorem searches_search {nodes : List α} (hnodes : nodes.Nodup) (hall : ∀ a, a ∉ nodes → next a = [])
    {fuel : Nat} {stack seen : List α}
    (hfuel : stack.length + (edgesLeft next nodes seen).length ≤ fuel) :
    Searches next target stack seen (search next target fuel stack seen) := by
  induction fuel generalizing stack seen with
  | zero =>
    have hempty : stack = [] := List.eq_nil_of_length_eq_zero (by omega)
    rw [hempty]
    exact .exhausted
  | succ fuel ih =>
    cases stack with
    | nil => exact .exhausted
    | cons a stack =>
      rw [List.length_cons] at hfuel
      rw [search]
      split
      case isTrue heq =>
        rw [heq]
        exact .found
      case isFalse hne =>
        split
        case isTrue ha => exact .known hne ha (ih (by omega))
        case isFalse ha =>
          refine .expand hne ha (ih ?_)
          have hleft := length_edgesLeft hnodes hall ha
          rw [List.length_append]
          omega

/-! ### The answer -/

/-- There is an edge from the first node to the second. -/
def Edge (next : α → List α) (a b : α) : Prop := b ∈ next a

/-- A search that comes to an end has followed every edge: the nodes it has expanded lead to nothing else. -/
theorem Searches.iff_leads {stack seen : List α} {answer : Bool}
    (h : Searches next target stack seen answer) (htarget : target ∉ seen)
    (hclosed : ∀ a ∈ seen, ∀ b ∈ next a, b ∈ seen ∨ b ∈ stack) :
    answer = true ↔ ∃ a ∈ seen ++ stack, Relation.ReflTransGen (Edge next) a target := by
  induction h with
  | @exhausted seen =>
    refine iff_of_false Bool.false_ne_true fun ⟨a, ha, hleads⟩ => ?_
    have hstays : ∀ b, Relation.ReflTransGen (Edge next) a b → b ∈ seen := by
      intro b hb
      induction hb with
      | refl => simpa using ha
      | tail _ hedge ih => exact (hclosed _ ih _ hedge).resolve_right List.not_mem_nil
    exact htarget (hstays target hleads)
  | found =>
    exact iff_of_true rfl ⟨target, List.mem_append_right _ (List.mem_cons_self ..), .refl⟩
  | @known a stack seen answer _ ha _ ih =>
    have hstep := ih htarget fun x hx b hb => by
      rcases hclosed x hx b hb with hb | hb
      · exact .inl hb
      · rcases List.mem_cons.mp hb with rfl | hb
        · exact .inl ha
        · exact .inr hb
    rw [hstep]
    constructor
    · rintro ⟨x, hx, hleads⟩
      rw [List.mem_append] at hx
      exact ⟨x, List.mem_append.mpr (hx.imp_right (List.mem_cons_of_mem a)), hleads⟩
    · rintro ⟨x, hx, hleads⟩
      rw [List.mem_append, List.mem_cons] at hx
      refine ⟨x, List.mem_append.mpr ?_, hleads⟩
      rcases hx with hx | rfl | hx
      · exact .inl hx
      · exact .inl ha
      · exact .inr hx
  | @expand a stack seen answer hne _ _ ih =>
    have htarget' : target ∉ a :: seen := fun h => (List.mem_cons.mp h).elim (hne ·.symm) htarget
    have hstep := ih htarget' fun x hx b hb => by
      rw [List.mem_append]
      rcases List.mem_cons.mp hx with rfl | hx
      · exact .inr (.inl hb)
      · rcases hclosed x hx b hb with hb | hb
        · exact .inl (List.mem_cons_of_mem a hb)
        · rcases List.mem_cons.mp hb with rfl | hb
          · exact .inl (List.mem_cons_self ..)
          · exact .inr (.inr hb)
    rw [hstep]
    constructor
    · rintro ⟨x, hx, hleads⟩
      simp only [List.mem_append, List.mem_cons] at hx
      rcases hx with (rfl | hx) | hx | hx
      · exact ⟨x, by simp, hleads⟩
      · exact ⟨x, List.mem_append_left _ hx, hleads⟩
      · -- What is put on the stack is led to from the node that is expanded.
        exact ⟨a, by simp, hleads.head hx⟩
      · exact ⟨x, by simp [hx], hleads⟩
    · rintro ⟨x, hx, hleads⟩
      refine ⟨x, ?_, hleads⟩
      simp only [List.mem_append, List.mem_cons] at hx ⊢
      tauto

/-- From a single node, a search answers whether that node leads to the target. -/
theorem Searches.iff_leads_of_start {source : α} {answer : Bool}
    (h : Searches next target [source] [] answer) :
    answer = true ↔ Relation.ReflTransGen (Edge next) source target := by
  rw [h.iff_leads List.not_mem_nil (by simp)]
  simp

section Start
variable {nodes : List α} (hnodes : nodes.Nodup) (hall : ∀ a, a ∉ nodes → next a = []) {fuel : Nat}
  (hfuel : (nodes.flatMap next).length < fuel)
include hnodes hall hfuel

theorem searches_search_of_start (source : α) :
    Searches next target [source] [] (search next target fuel [source] []) := by
  refine searches_search hnodes hall ?_
  have hleft : edgesLeft next nodes [] = nodes.flatMap next := by
    rw [edgesLeft, List.filter_eq_self.mpr (by simp)]
  rw [hleft, List.length_singleton]
  omega

theorem search_eq_true_iff {source : α} : search next target fuel [source] [] = true ↔
    Relation.ReflTransGen (Edge next) source target :=
  (searches_search_of_start hnodes hall hfuel source).iff_leads_of_start

/-- However the edges out of a node are ordered, the search comes to an end, with one and the same answer. -/
theorem searches_iff_of_perm {next' : α → List α} (hperm : ∀ a, (next' a).Perm (next a)) {source : α}
    {answer : Bool} :
    Searches next' target [source] [] answer ↔ answer = search next target fuel [source] [] := by
  have hedges : Edge next' = Edge next := by
    funext a b
    exact propext (hperm a).mem_iff
  have hunique : ∀ {answer}, Searches next' target [source] [] answer →
      answer = search next target fuel [source] [] := fun h => by
    rw [Bool.eq_iff_iff, h.iff_leads_of_start, search_eq_true_iff hnodes hall hfuel, hedges]
  refine ⟨hunique, fun h => ?_⟩
  have hall' : ∀ a, a ∉ nodes → next' a = [] := fun a ha =>
    List.Perm.eq_nil (hall a ha ▸ hperm a)
  have hfuel' : (nodes.flatMap next').length < fuel := by
    have hlength := (List.Perm.flatMap_left nodes fun a _ => hperm a).length_eq
    rwa [hlength]
  have hsearches : Searches next' target [source] [] _ :=
    searches_search_of_start hnodes hall' hfuel' source
  rw [h, ← hunique hsearches]
  exact hsearches

end Start

end Specimen.Source
