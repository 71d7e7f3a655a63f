import ControlPlane.Resume.Order

/-!
# The order of resumption is sound

Of any two candidates one may stand in front of the other, and what may stand in front of the
one may do so with whatever comes after it. So ranking is sorting: it leaves all candidates
there, and none of them has to go in front of one before it.
-/

set_option autoImplicit false

namespace ControlPlane

open Std

namespace ResumeCandidate

instance : TransCmp order :=
  inferInstanceAs <| TransCmp <|
    compareLex (compareLex (compareLex
      (fun a b : ResumeCandidate => compareOn isExecutable b a)
      (compareOn ResumeCandidate.priority))
      (fun a b : ResumeCandidate => compareOn millis b a))
      (compareOn ResumeCandidate.epicId)

theorem precedes_trans (a b c : ResumeCandidate) (ab : a.precedes b = true)
    (bc : b.precedes c = true) : a.precedes c = true :=
  TransCmp.isLE_trans ab bc

theorem precedes_total (a b : ResumeCandidate) : (a.precedes b || b.precedes a) = true := by
  have swapped : order b a = (order a b).swap := OrientedCmp.eq_swap
  rw [precedes, precedes, swapped]
  cases order a b <;> rfl

/-- The order leaves open which of two candidates comes first exactly if they agree in all that
it looks at. -/
theorem order_eq_iff {a b : ResumeCandidate} :
    a.order b = .eq ↔
      a.isExecutable = b.isExecutable ∧ a.priority = b.priority ∧ a.millis = b.millis ∧
        a.epicId = b.epicId := by
  simp only [order, Ordering.then_eq_eq, Std.compare_eq_iff_eq, and_assoc]
  -- two of the keys are compared the other way around
  rw [eq_comm (a := b.isExecutable), eq_comm (a := b.millis)]

theorem order_trans {a b c : ResumeCandidate} (ab : a.order b ≠ .gt) (bc : b.order c ≠ .gt) :
    a.order c ≠ .gt := by
  have first : a.precedes b = true := Ordering.isLE_iff_ne_gt.mpr ab
  have second : b.precedes c = true := Ordering.isLE_iff_ne_gt.mpr bc
  exact Ordering.isLE_iff_ne_gt.mp (precedes_trans a b c first second)

theorem order_antisymm {a b : ResumeCandidate} (ab : a.order b ≠ .gt) (ba : b.order a ≠ .gt) :
    a.order b = .eq :=
  OrientedCmp.isLE_antisymm (Ordering.isLE_iff_ne_gt.mpr ab) (Ordering.isLE_iff_ne_gt.mpr ba)

theorem order_total (a b : ResumeCandidate) : a.order b ≠ .gt ∨ b.order a ≠ .gt := by
  have either := precedes_total a b
  rw [Bool.or_eq_true] at either
  exact either.imp Ordering.isLE_iff_ne_gt.mp Ordering.isLE_iff_ne_gt.mp

/-- The order of resumption is a total preorder: the other way around it says the reverse, what
may stand in front of a candidate may stand in front of what comes after it, and of any two one
may stand in front of the other. It leaves open which comes first exactly if both can be
executed or neither, and they are as urgent, were updated at one instant, however that is
written, and have one name. -/
theorem order_preorder (a b c : ResumeCandidate) :
    a.order b = (b.order a).swap ∧
      (a.order b ≠ .gt → b.order c ≠ .gt → a.order c ≠ .gt) ∧
      (a.order b ≠ .gt ∨ b.order a ≠ .gt) ∧
      (a.order b = .eq ↔
        a.isExecutable = b.isExecutable ∧ a.priority = b.priority ∧
          Instant.millis a.updatedAt = Instant.millis b.updatedAt ∧ a.epicId = b.epicId) :=
  ⟨OrientedCmp.eq_swap, order_trans, order_total a b, order_eq_iff⟩

/-- Two spellings of one instant make no difference, nor an empty list of blockers beside none.
A text that names no instant stands for the start of 1970. -/
example :
    order ⟨"epic-1", 1, "2024-06-01T12:00:00+02:00", none⟩
        ⟨"epic-1", 1, "1717236000000", some []⟩ = .eq ∧
      order ⟨"epic-1", 1, "last tuesday", none⟩ ⟨"epic-1", 1, "1970-01-01", none⟩ = .eq := by
  constructor <;> cbv

theorem blocked_of_precedes {a b : ResumeCandidate} (h : order a b ≠ .gt)
    (blocked : a.isExecutable = false) : b.isExecutable = false := by
  cases executable : b.isExecutable with
  | false => rfl
  | true =>
    refine absurd ?_ h
    rw [order, executable, blocked]
    rfl

end ResumeCandidate

variable {candidates : List ResumeCandidate} {best c : ResumeCandidate}

/-- The first of an ordered list may stand in front of each candidate there, itself too. -/
theorem order_head {rest : List ResumeCandidate}
    (ordered : (best :: rest).Pairwise fun a b => a.order b ≠ .gt) (there : c ∈ best :: rest) :
    best.order c ≠ .gt := by
  rcases List.mem_cons.mp there with rfl | later
  · have equal : c.order c = .eq := ReflCmp.compare_self
    rw [equal]
    decide
  · exact List.rel_of_pairwise_cons ordered later

theorem ranked_perm (candidates : List ResumeCandidate) : (ranked candidates).Perm candidates :=
  List.mergeSort_perm _ _

theorem mem_ranked : c ∈ ranked candidates ↔ c ∈ candidates :=
  (ranked_perm candidates).mem_iff

theorem ranked_eq_nil : ranked candidates = [] ↔ candidates = [] := by
  rw [← List.length_eq_zero_iff, (ranked_perm candidates).length_eq, List.length_eq_zero_iff]

theorem ranked_pairwise (candidates : List ResumeCandidate) :
    (ranked candidates).Pairwise fun a b => a.order b ≠ .gt := by
  have sorted := List.pairwise_mergeSort ResumeCandidate.precedes_trans
    ResumeCandidate.precedes_total candidates
  exact sorted.imp Ordering.isLE_iff_ne_gt.mp

theorem ranked_head (first : (ranked candidates).head? = some best) :
    best ∈ candidates ∧ ∀ c ∈ candidates, best.order c ≠ .gt := by
  obtain ⟨rest, list⟩ := List.head?_eq_some_iff.mp first
  have sorted := ranked_pairwise candidates
  rw [list] at sorted
  refine ⟨mem_ranked.mp (by simp [list]), fun c there => ?_⟩
  rw [← mem_ranked, list] at there
  exact order_head sorted there

/-- What is blocked waits behind what is not, however urgent it is. -/
example :
    (ranked [⟨"epic-1", 1, "2024-05-01", some ["epic-9"]⟩, ⟨"epic-2", 5, "2024-04-01", none⟩]).map
      (·.epicId) = ["epic-2", "epic-1"] := by
  cbv

end ControlPlane
