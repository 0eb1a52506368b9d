/-
Rearrangements of a row, and what they leave as it was. A rearrangement
carries every place of one row to a place of another that holds the same
item, so the rows have the same items equally often. It keeps the order of
related items if of any two places that hold related ones the earlier goes
before the later.

Whatever is read off a row from items that are all related to each other
does not see a rearrangement that keeps the order of these
(`Keeps.filterMap_eq`): their places, carried over one by one, are again in
ascending order, and they are all the places in question, so that they are
the very list of these places.
-/
import Mathlib.Data.List.Sort
import Mathlib.Data.List.FinRange

namespace FaultStatus

variable {α β : Type}

/-- A way to rearrange a row into another. -/
structure Rearrangement (xs ys : List α) where
  /-- Where the item at a place goes. -/
  place : Fin xs.length ≃ Fin ys.length
  same : ∀ i, ys[place i] = xs[i]

namespace Rearrangement

variable {xs ys : List α}

/-- Related items stand in the same order before and after. -/
def Keeps (σ : Rearrangement xs ys) (related : α → α → Prop) : Prop :=
  ∀ i j, i < j → related xs[i] xs[j] → σ.place i < σ.place j

instance (σ : Rearrangement xs ys) (related : α → α → Prop)
    [DecidableRel related] : Decidable (σ.Keeps related) :=
  inferInstanceAs (Decidable (∀ i j, i < j → related xs[i] xs[j] →
    σ.place i < σ.place j))

theorem Keeps.mono {σ : Rearrangement xs ys} {r s : α → α → Prop}
    (h : σ.Keeps s) (hrs : ∀ a b, r a b → s a b) : σ.Keeps r := by
  intro i j hij hr
  exact h i j hij (hrs _ _ hr)

/-- The items that pass a test, by their places. -/
theorem filter_eq_map_places (p : α → Bool) (l : List α) :
    l.filter p = ((List.finRange l.length).filter fun i => p l[i]).map
      fun i => l[i] := by
  conv_lhs => rw [← List.map_getElem_finRange l]
  rw [List.filter_map]
  rfl

theorem Keeps.filter_eq {σ : Rearrangement xs ys} {p : α → Bool}
    (h : σ.Keeps fun a b => p a = true ∧ p b = true) :
    xs.filter p = ys.filter p := by
  have hplaces : ((List.finRange xs.length).filter fun i => p xs[i]).map
      σ.place = (List.finRange ys.length).filter fun j => p ys[j] := by
    apply List.Pairwise.eq_of_mem_iff (r := (· < ·))
    · rw [List.pairwise_map, List.pairwise_filter]
      refine List.pairwise_lt_finRange xs.length |>.imp ?_
      intro i j hij hi hj
      exact h i j hij ⟨hi, hj⟩
    · exact (List.pairwise_lt_finRange ys.length).filter _
    · intro j
      simp only [List.mem_map, List.mem_filter, List.mem_finRange, true_and]
      constructor
      · rintro ⟨i, hi, rfl⟩
        rw [σ.same]
        exact hi
      · intro hj
        obtain ⟨i, rfl⟩ := σ.place.surjective j
        rw [σ.same] at hj
        exact ⟨i, hj, rfl⟩
  rw [filter_eq_map_places p xs, filter_eq_map_places p ys, ← hplaces,
    List.map_map]
  refine List.map_congr_left fun i _ => ?_
  exact (σ.same i).symm

/-- What is read off a row from items all related to each other is the same
after a rearrangement that keeps their order. -/
theorem Keeps.filterMap_eq {σ : Rearrangement xs ys} {r : α → α → Prop}
    (h : σ.Keeps r) {f : α → Option β}
    (hf : ∀ a b, (f a).isSome = true → (f b).isSome = true → r a b) :
    xs.filterMap f = ys.filterMap f := by
  have hkept : xs.filter (fun a => (f a).isSome)
      = ys.filter fun a => (f a).isSome :=
    Keeps.filter_eq (h.mono fun a b hab => hf a b hab.1 hab.2)
  have hread : ∀ l : List α, l.filterMap f
      = (l.filter fun a => (f a).isSome).filterMap f := by
    intro l
    rw [List.filterMap_filter]
    congr 1
    funext a
    cases f a <;> rfl
  rw [hread xs, hread ys, hkept]

theorem mem_iff (σ : Rearrangement xs ys) {a : α} : a ∈ xs ↔ a ∈ ys := by
  constructor
  · intro h
    obtain ⟨i, hi, rfl⟩ := List.getElem_of_mem h
    have hsame := σ.same ⟨i, hi⟩
    exact List.mem_of_getElem hsame
  · intro h
    obtain ⟨j, hj, rfl⟩ := List.getElem_of_mem h
    obtain ⟨i, hi⟩ := σ.place.surjective ⟨j, hj⟩
    have hsame := (σ.same i).symm
    simp only [hi] at hsame
    exact List.mem_of_getElem hsame

end Rearrangement

end FaultStatus
