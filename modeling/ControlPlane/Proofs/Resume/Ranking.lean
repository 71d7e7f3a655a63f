import Mathlib.Data.List.Forall2
import ControlPlane.Proofs.Resume.Order

/-!
# Ranking is the stable sort

Candidates tie where the order leaves open which comes first. A list in order is one group of
ties behind another, so two such lists agree position by position if their groups do
(`ordered_agree`). A ranking has the groups of its list, each as it was there (`ranked_ties`).
No other list in order has these, and another list of the same candidates has groups of the
same sizes.
-/

set_option autoImplicit false

namespace ControlPlane

open Std

namespace ResumeCandidate

def ties (a b : ResumeCandidate) : Bool := a.order b == .eq

variable {a b c : ResumeCandidate}

theorem ties_iff : a.ties b = true ↔ a.order b = .eq := by
  rw [ties, beq_iff_eq]

theorem ties_self (a : ResumeCandidate) : a.ties a = true :=
  ties_iff.mpr ReflCmp.compare_self

/-- What ties with the one of two that tie does so with the other. -/
theorem ties_congr (tied : a.ties b = true) (c : ResumeCandidate) : c.ties a = c.ties b := by
  rw [ties, ties, TransCmp.congr_right (ties_iff.mp tied)]

theorem order_of_ties (ca : c.ties a = true) (cb : c.ties b = true) : a.order b = .eq := by
  rw [← TransCmp.congr_left (ties_iff.mp ca)]
  exact ties_iff.mp cb

end ResumeCandidate

variable {l m cs : List ResumeCandidate} {a b c : ResumeCandidate}

def Ordered (l : List ResumeCandidate) : Prop := l.Pairwise fun a b => a.order b ≠ .gt

theorem mem_group (same : (l.filter c.ties).length = (m.filter c.ties).length)
    (there : c ∈ l) : ∃ x ∈ m, c.ties x = true := by
  have found : 0 < (l.filter c.ties).length :=
    List.length_pos_of_mem (List.mem_filter.mpr ⟨there, c.ties_self⟩)
  rw [same] at found
  obtain ⟨x, inside⟩ := List.exists_mem_of_length_pos found
  exact ⟨x, List.mem_filter.mp inside⟩

/-- The first candidates tie if each of them ties with one of the other list. -/
theorem heads_tie (hl : Ordered (a :: l)) (hm : Ordered (b :: m))
    (inLast : ∃ x ∈ b :: m, a.ties x = true) (inFirst : ∃ x ∈ a :: l, b.ties x = true) :
    a.ties b = true := by
  obtain ⟨x, there, tied⟩ := inLast
  -- each head stands behind what ties with the other one in the other list
  have ba : b.order a ≠ .gt := by
    rw [TransCmp.congr_right (ResumeCandidate.ties_iff.mp tied)]
    exact order_head hm there
  obtain ⟨y, here, tied⟩ := inFirst
  have ab : a.order b ≠ .gt := by
    rw [TransCmp.congr_right (ResumeCandidate.ties_iff.mp tied)]
    exact order_head hl here
  exact ResumeCandidate.ties_iff.mpr (ResumeCandidate.order_antisymm ab ba)

/-- Lists in order agree position by position if their groups of ties do. -/
theorem ordered_agree {R : ResumeCandidate → ResumeCandidate → Prop} (hl : Ordered l)
    (hm : Ordered m)
    (groups : ∀ c : ResumeCandidate, (l.filter c.ties).Forall₂ R (m.filter c.ties)) :
    l.Forall₂ R m := by
  induction l generalizing m with
  | nil =>
    cases m with
    | nil => exact .nil
    | cons b m =>
      have group := groups b
      rw [List.filter_cons_of_pos b.ties_self] at group
      cases group
  | cons a l ih =>
    cases m with
    | nil =>
      have group := groups a
      rw [List.filter_cons_of_pos a.ties_self] at group
      cases group
    | cons b m =>
      have tied : a.ties b = true :=
        heads_tie hl hm (mem_group (groups a).length_eq List.mem_cons_self)
          (mem_group (groups b).length_eq.symm List.mem_cons_self)
      have first := groups a
      rw [List.filter_cons_of_pos a.ties_self, List.filter_cons_of_pos tied] at first
      refine .cons (List.forall₂_cons.mp first).1 (ih hl.of_cons hm.of_cons fun c => ?_)
      -- the heads are in one group, so either both or none of them has to go
      have group := groups c
      rw [List.filter_cons, List.filter_cons, ← ResumeCandidate.ties_congr tied c] at group
      split at group
      · exact (List.forall₂_cons.mp group).2
      · exact group

theorem groups_agree (same : l.Perm m) (c : ResumeCandidate) :
    (l.filter c.ties).Forall₂ (fun a b => a.order b = .eq) (m.filter c.ties) := by
  refine List.forall₂_iff_zip.mpr ⟨(same.filter _).length_eq, fun both => ?_⟩
  obtain ⟨inFirst, inLast⟩ := List.of_mem_zip both
  exact ResumeCandidate.order_of_ties (List.mem_filter.mp inFirst).2 (List.mem_filter.mp inLast).2

/-- Ranking leaves a group of ties as it was. -/
theorem ranked_ties (cs : List ResumeCandidate) (c : ResumeCandidate) :
    (ranked cs).filter c.ties = cs.filter c.ties := by
  have ordered : (cs.filter c.ties).Pairwise fun a b => a.precedes b = true := by
    refine List.pairwise_of_forall_mem_list fun a inFirst b inLast => ?_
    have tied : a.order b = .eq :=
      ResumeCandidate.order_of_ties (List.mem_filter.mp inFirst).2 (List.mem_filter.mp inLast).2
    rw [ResumeCandidate.precedes, tied]
    rfl
  have kept : (cs.filter c.ties).Sublist (ranked cs) :=
    List.sublist_mergeSort ResumeCandidate.precedes_trans ResumeCandidate.precedes_total ordered
      List.filter_sublist
  have inside : (cs.filter c.ties).Sublist ((ranked cs).filter c.ties) := by
    simpa using kept.filter c.ties
  exact (inside.eq_of_length ((ranked_perm cs).filter _).length_eq.symm).symm

structure StablyOrders (l cs : List ResumeCandidate) : Prop where
  perm : l.Perm cs
  ordered : Ordered l
  stable : ∀ c : ResumeCandidate, l.filter c.ties = cs.filter c.ties

theorem ranked_stablyOrders (cs : List ResumeCandidate) : StablyOrders (ranked cs) cs :=
  ⟨ranked_perm cs, ranked_pairwise cs, ranked_ties cs⟩

theorem StablyOrders.unique (hl : StablyOrders l cs) (hm : StablyOrders m cs) : l = m := by
  rw [← List.forall₂_eq_eq_eq]
  refine ordered_agree hl.ordered hm.ordered fun c => ?_
  rw [List.forall₂_eq_eq_eq, hl.stable, hm.stable]

/-- Ranking is the stable sort: a list is the ranking of another one exactly if it has the same
candidates, in order, and ties as they were. So what can be executed comes before all that is
blocked, and ranking once more changes nothing. Lists of the same candidates have rankings that
tie position by position, and are ranked alike if no two different candidates tie. -/
theorem ranked_stably (cs : List ResumeCandidate) :
    (∀ l, l = ranked cs ↔ StablyOrders l cs) ∧
      (ranked cs).Pairwise (fun a b => a.isExecutable = false → b.isExecutable = false) ∧
      ranked (ranked cs) = ranked cs ∧
      ∀ ds, cs.Perm ds →
        (ranked cs).Forall₂ (fun a b => a.order b = .eq) (ranked ds) ∧
          ((∀ a ∈ cs, ∀ b ∈ cs, a.isExecutable = b.isExecutable → a.priority = b.priority →
              a.millis = b.millis → a.epicId = b.epicId → a = b) →
            ranked cs = ranked ds) := by
  refine ⟨fun l => ⟨?_, ?_⟩, ?_, ?_, fun ds same => ?_⟩
  · rintro rfl
    exact ranked_stablyOrders cs
  · intro sorted
    exact sorted.unique (ranked_stablyOrders cs)
  · exact (ranked_pairwise cs).imp ResumeCandidate.blocked_of_precedes
  · exact List.mergeSort_of_pairwise <|
      (ranked_pairwise cs).imp Ordering.isLE_iff_ne_gt.mpr
  · have alike : (ranked cs).Perm (ranked ds) :=
      (ranked_perm cs).trans (same.trans (ranked_perm ds).symm)
    refine ⟨ordered_agree (ranked_pairwise cs) (ranked_pairwise ds) (groups_agree alike), ?_⟩
    intro apart
    refine List.Perm.eq_of_pairwise ?_ (ranked_pairwise cs) (ranked_pairwise ds) alike
    intro a b inFirst inLast ab ba
    have here : a ∈ cs := mem_ranked.mp inFirst
    have there : b ∈ cs := same.mem_iff.mpr (mem_ranked.mp inLast)
    obtain ⟨executable, priority, millis, epicId⟩ :=
      ResumeCandidate.order_eq_iff.mp (ResumeCandidate.order_antisymm ab ba)
    exact apart a here b there executable priority millis epicId

/-- Two candidates that tie stay as they were, behind what goes before both. -/
example :
    let first : ResumeCandidate := ⟨"epic-1", 2, "2024-05-01", none⟩
    let second : ResumeCandidate := ⟨"epic-1", 2, "2024-05-01T00:00:00Z", some []⟩
    let urgent : ResumeCandidate := ⟨"epic-3", 1, "soon", none⟩
    (ranked [first, second, urgent]).map (·.updatedAt) =
      ["soon", "2024-05-01", "2024-05-01T00:00:00Z"] := by
  cbv

end ControlPlane
