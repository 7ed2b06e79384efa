import GameScenes.Json.Basic
import Mathlib.Order.Basic

/-!
# Repeated keys

Of the members of an object that have one key, the canonical form has the one written last
(`Json.get?_canonical`).
-/

set_option autoImplicit false

namespace GameScenes.Json

theorem canonicalMembers_eq (members : List (String × Json)) :
    canonicalMembers members = members.map fun member => (member.1, member.2.canonical) := by
  induction members with
  | nil => rfl
  | cons member rest ih => rw [canonicalMembers, ih, List.map_cons]

theorem lookup_keepLast {α : Type} (key : String) (members : List (String × α))
    (sorted : members.Pairwise fun a b => ¬ b.1 < a.1) :
    (keepLast members).lookup key =
      ((members.filter fun member => key == member.1).getLast?).map (·.2) := by
  fun_induction keepLast members with
  | case1 => rfl
  | case2 member =>
      rw [List.lookup_cons, List.filter_cons]
      by_cases mine : (key == member.1) = true
      · simp [mine]
      · simp [mine]
  | case3 member next rest same ih =>
      rw [ih sorted.of_cons, List.filter_cons, List.filter_cons]
      by_cases mine : (key == next.1) = true
      · simp [mine, same]
      · simp [mine, same]
  | case4 member next rest apart ih =>
      have above := List.pairwise_cons.mp sorted
      rw [List.lookup_cons, List.filter_cons, ih above.2]
      by_cases mine : (key == member.1) = true
      · have others : (next :: rest).filter (fun other => key == other.1) = [] := by
          rw [List.filter_eq_nil_iff]
          intro other among same
          have equal : other.1 = member.1 := (beq_iff_eq.mp same).symm.trans (beq_iff_eq.mp mine)
          have low : member.1 ≤ next.1 := String.not_lt.mp (above.1 next (List.mem_cons_self ..))
          rcases List.mem_cons.mp among with rfl | later
          · exact apart equal.symm
          · have high : next.1 ≤ member.1 := by
              rw [← equal]
              exact String.not_lt.mp ((List.pairwise_cons.mp above.2).1 other later)
            exact apart (String.le_antisymm low high)
        simp [mine, others]
      · simp [mine]

/-- Of the members with one key, the last one is kept. -/
theorem lookup_sortMembers {α : Type} (key : String) (members : List (String × α)) :
    (sortMembers members).lookup key =
      ((members.filter fun member => key == member.1).getLast?).map (·.2) := by
  have trans : ∀ a b c : String × α, (!decide (b.1 < a.1)) = true →
      (!decide (c.1 < b.1)) = true → (!decide (c.1 < a.1)) = true := by
    simp only [Bool.not_eq_true', decide_eq_false_iff_not, String.not_lt]
    intro a b c first second
    exact String.le_trans first second
  have total : ∀ a b : String × α,
      (!decide (b.1 < a.1) || !decide (a.1 < b.1)) = true := by
    simp only [Bool.or_eq_true, Bool.not_eq_true', decide_eq_false_iff_not, String.not_lt]
    intro a b
    exact String.le_total a.1 b.1
  unfold sortMembers
  rw [lookup_keepLast key _ (by simpa using List.pairwise_mergeSort trans total members)]
  have one : (members.filter fun member => key == member.1).Pairwise
      fun a b => (!decide (b.1 < a.1)) = true := by
    rw [List.pairwise_filter]
    refine List.pairwise_of_forall fun a b first second => ?_
    rw [← beq_iff_eq.mp first, ← beq_iff_eq.mp second]
    simp
  have kept := (List.sublist_mergeSort trans total one List.filter_sublist).filter
    fun member => key == member.1
  have counted := ((List.mergeSort_perm members fun a b => !decide (b.1 < a.1)).filter
    fun member => key == member.1).length_eq
  simp only [List.filter_filter, Bool.and_self] at kept
  rw [kept.eq_of_length counted.symm]

/-- The value of a key in canonical form. -/
theorem get?_canonical (members : List (String × Json)) (key : String) :
    (Json.object members).canonical.get? key =
      ((members.filter fun member => key == member.1).getLast?).map (·.2.canonical) := by
  rw [canonical, get?, lookup_sortMembers, canonicalMembers_eq, List.filter_map, List.getLast?_map,
    Option.map_map]
  rfl

end GameScenes.Json
