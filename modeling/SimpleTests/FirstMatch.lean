import Mathlib.Order.Bounds.Basic
import Mathlib.Data.Nat.Find
import Mathlib.Tactic.ByContra

/-! # The first member of a list that matches

`hits P xs` are the indices of the members that satisfy `P`, and a search finds the least of
them (`findIdx?_eq_some_iff`).

Two searches of one list are compared by their conditions alone.  The weaker condition is met
at the same index or before (`exists_isLeast_le`), and at the same one if no two members can
meet it together (`subsingleton_hits`).
-/
namespace SimpleTests.FirstMatch

variable {α : Type*} {P Q : α → Prop} {p : α → Bool} {xs : List α} {i : ℕ}

/-- The indices of the members that satisfy `P`. -/
def hits (P : α → Prop) (xs : List α) : Set ℕ := {i | ∃ x, xs[i]? = some x ∧ P x}

theorem lt_length_of_mem_hits (h : i ∈ hits P xs) : i < xs.length := by
  obtain ⟨x, hx, -⟩ := h
  exact (List.getElem?_eq_some_iff.mp hx).1

theorem hits_mono (h : ∀ x, P x → Q x) : hits P xs ⊆ hits Q xs := by
  rintro i ⟨x, hx, hP⟩
  exact ⟨x, hx, h x hP⟩

/-- **What a search finds** is the least index of a match. -/
theorem findIdx?_eq_some_iff (hp : ∀ x, p x = true ↔ P x) :
    xs.findIdx? p = some i ↔ IsLeast (hits P xs) i := by
  rw [List.findIdx?_eq_some_iff_getElem]
  constructor
  · rintro ⟨hlt, hi, hbefore⟩
    refine ⟨⟨xs[i], List.getElem?_eq_getElem hlt, (hp _).mp hi⟩, ?_⟩
    rintro j ⟨x, hx, hP⟩
    by_contra hlt
    obtain ⟨hj, rfl⟩ := List.getElem?_eq_some_iff.mp hx
    exact hbefore j (by omega) ((hp _).mpr hP)
  · rintro ⟨⟨x, hx, hP⟩, hleast⟩
    obtain ⟨hlt, rfl⟩ := List.getElem?_eq_some_iff.mp hx
    refine ⟨hlt, (hp _).mpr hP, fun j hj hpj => ?_⟩
    have hle : i ≤ j := hleast ⟨_, List.getElem?_eq_getElem (by omega), (hp _).mp hpj⟩
    omega

/-- A search finds nothing if there is no match. -/
theorem findIdx?_eq_none_iff (hp : ∀ x, p x = true ↔ P x) :
    xs.findIdx? p = none ↔ ∀ x ∈ xs, ¬ P x := by
  rw [List.findIdx?_eq_none_iff]
  constructor
  · intro h x hx hP
    exact absurd ((hp x).mpr hP) (by simp [h x hx])
  · intro h x hx
    exact Bool.eq_false_iff.mpr fun hpx => h x hx ((hp x).mp hpx)

/-- The weaker condition is met at the same index or before. -/
theorem exists_isLeast_le (h : ∀ x, P x → Q x) (hi : i ∈ hits P xs) :
    ∃ j ≤ i, IsLeast (hits Q xs) j := by
  classical
  have hQ : ∃ k, k ∈ hits Q xs := ⟨i, hits_mono h hi⟩
  exact ⟨Nat.find hQ, Nat.find_min' hQ (hits_mono h hi),
    Nat.find_spec hQ, fun k hk => Nat.find_min' hQ hk⟩

/-- If any two members that satisfy `P` are related, and no two members of the list are,
then one member at most satisfies `P`. -/
theorem subsingleton_hits {R : α → α → Prop} (hR : ∀ x y, P x → P y → R x y)
    (hpair : xs.Pairwise fun x y => ¬ R x y) : (hits P xs).Subsingleton := by
  have ordered : ∀ i j, i ∈ hits P xs → j ∈ hits P xs → ¬ i < j := by
    rintro i j ⟨x, hx, hPx⟩ ⟨y, hy, hPy⟩ hlt
    obtain ⟨hi, rfl⟩ := List.getElem?_eq_some_iff.mp hx
    obtain ⟨hj, rfl⟩ := List.getElem?_eq_some_iff.mp hy
    exact List.pairwise_iff_getElem.mp hpair i j hi hj hlt (hR _ _ hPx hPy)
  intro i hi j hj
  have hij := ordered i j hi hj
  have hji := ordered j i hj hi
  omega

end SimpleTests.FirstMatch
