import SimpleTests.FirstMatch
import Mathlib.Data.List.Count
import Mathlib.Data.Set.Basic

/-! # The descriptor table of a process

A table has one place for each descriptor that the process may use, with the file that the
descriptor is open on.  What opens descriptors takes the lowest free one (`alloc`), and
`pipe` opens two or none.

The lemmas say what a call does to `file`, to the set `Free` of the free descriptors, and to
their number `room`.
-/
namespace SimpleTests.DescriptorTable
open FirstMatch

variable {F : Type*}

/-- The places of a table; `none` is a free one. -/
abbrev Files (F : Type*) : Type _ := List (Option F)

/-- The file that a descriptor is open on. -/
def file (t : Files F) (d : ℕ) : Option F := t[d]?.join

/-- The descriptor can be opened. -/
def Free (t : Files F) : Set ℕ := {d | t[d]? = some none}

/-- How many descriptors can be opened. -/
def room (t : Files F) : ℕ := t.countP Option.isNone

/-- A descriptor is open on a file of this kind. -/
def anyOpen (kind : F → Bool) (t : Files F) : Bool := t.any (Option.any kind)

/-- The lowest free descriptor is opened. -/
def alloc (t : Files F) (f : F) : Option (ℕ × Files F) :=
  (t.findIdx? Option.isNone).map fun d => (d, t.set d (some f))

/-- `dup()` -/
def dup (t : Files F) (d : ℕ) : Option (ℕ × Files F) := (file t d).bind (alloc t)

/-- `dup2()`; the table is as before if it fails. -/
def dup2 (t : Files F) (d e : ℕ) : Files F :=
  match file t d with
  | none => t
  | some f => t.set e (some f)

/-- `close()` -/
def close (t : Files F) (d : ℕ) : Files F := t.set d none

/-- `pipe()`, with what its two ends are open on. -/
def pipe (t : Files F) (readEnd writeEnd : F) : Option (ℕ × ℕ × Files F) :=
  (alloc t readEnd).bind fun a => (alloc a.2 writeEnd).map fun b => (a.1, b.1, b.2)

variable {t : Files F} {f g : F} {d e : ℕ} {x : Option F}

/-! ## Places -/

theorem lt_length_of_free (h : d ∈ Free t) : d < t.length :=
  (List.getElem?_eq_some_iff.mp h).1

theorem lt_length_of_file (h : file t d = some f) : d < t.length := by
  obtain hx : t[d]? = some (some f) := Option.join_eq_some_iff.mp h
  exact (List.getElem?_eq_some_iff.mp hx).1

theorem file_of_free (h : d ∈ Free t) : file t d = none := by
  have h : t[d]? = some none := h
  rw [file, h]
  rfl

theorem ne_of_free (hf : file t d = some f) (h : e ∈ Free t) : d ≠ e := by
  rintro rfl
  rw [file_of_free h] at hf
  cases hf

theorem file_set_self (h : d < t.length) : file (t.set d x) d = x := by
  rw [file, List.getElem?_set_self h, Option.join_some]

theorem file_set_of_ne (h : d ≠ e) : file (t.set e x) d = file t d := by
  rw [file, file, List.getElem?_set_ne (Ne.symm h)]

/-- A table with one place that is set. -/
theorem file_set : file (t.set e x) d = if d = e ∧ e < t.length then x else file t d := by
  split
  · next h =>
    obtain ⟨rfl, hlt⟩ := h
    exact file_set_self hlt
  · next h =>
    rcases eq_or_ne d e with rfl | hne
    · rw [List.set_eq_of_length_le (by simpa using h)]
    · exact file_set_of_ne hne

theorem free_of_file_eq_none (h : file t d = none) (hlt : d < t.length) : d ∈ Free t := by
  show t[d]? = some none
  rw [file, List.getElem?_eq_getElem hlt, Option.join_some] at h
  rw [List.getElem?_eq_getElem hlt, h]

/-- Opening a descriptor takes it away from the free ones. -/
theorem free_set : Free (t.set d (some f)) = Free t \ {d} := by
  ext e
  show (t.set d (some f))[e]? = some none ↔ t[e]? = some none ∧ e ≠ d
  rcases eq_or_ne e d with rfl | hne
  · simp only [List.getElem?_set_self', ne_eq, not_true_eq_false, and_false, iff_false]
    cases t[e]? <;> simp
  · rw [List.getElem?_set_ne hne.symm]
    exact (and_iff_left hne).symm

theorem anyOpen_iff {kind : F → Bool} :
    anyOpen kind t = true ↔ ∃ d f, file t d = some f ∧ kind f = true := by
  rw [anyOpen, List.any_eq_true]
  constructor
  · rintro ⟨x, hx, hkind⟩
    obtain ⟨f, rfl, hf⟩ := (Option.any_eq_true kind x).mp hkind
    obtain ⟨d, hd⟩ := List.mem_iff_getElem?.mp hx
    exact ⟨d, f, by rw [file, hd]; rfl, hf⟩
  · rintro ⟨d, f, hd, hf⟩
    obtain hd : t[d]? = some (some f) := Option.join_eq_some_iff.mp hd
    exact ⟨some f, List.mem_of_getElem? hd, (Option.any_eq_true kind _).mpr ⟨f, rfl, hf⟩⟩

theorem anyOpen_eq_false {kind : F → Bool}
    (h : ∀ d f, file t d = some f → kind f = true → False) : anyOpen kind t = false := by
  rw [Bool.eq_false_iff]
  intro hany
  obtain ⟨d, f, hd, hf⟩ := anyOpen_iff.mp hany
  exact h d f hd hf

/-! ## Tables of which only the files are renamed -/

section Map
variable {G : Type*} {rename : F → G}

theorem file_map : file (t.map (Option.map rename)) d = (file t d).map rename := by
  rw [file, file, List.getElem?_map]
  cases t[d]? <;> rfl

theorem room_map : room (t.map (Option.map rename)) = room t := by
  rw [room, room, List.countP_map]
  exact List.countP_congr fun x _ => by cases x <;> simp

end Map

/-! ## Room -/

theorem room_set (h : d < t.length) :
    room (t.set d x) + (if (file t d).isNone then 1 else 0) =
      room t + (if x.isNone then 1 else 0) := by
  have hfile : file t d = t[d] := by
    rw [file, List.getElem?_eq_getElem h, Option.join_some]
  have hpos : (t[d]).isNone = true → 0 < t.countP Option.isNone :=
    fun hd => List.countP_pos_iff.mpr ⟨_, List.getElem_mem h, hd⟩
  rw [room, room, List.countP_set h, hfile]
  by_cases hd : (t[d]).isNone = true
  · have hpos := hpos hd
    rw [if_pos hd]
    split <;> omega
  · rw [if_neg hd]
    split <;> omega

theorem room_set_free (h : d ∈ Free t) : room (t.set d (some f)) + 1 = room t := by
  have hroom := room_set (x := some f) (lt_length_of_free h)
  rw [file_of_free h] at hroom
  exact hroom

theorem room_close (h : file t d = some f) : room (t.set d none) = room t + 1 := by
  have hroom := room_set (x := none) (lt_length_of_file h)
  rw [h] at hroom
  exact hroom

/-- A descriptor that is open is opened anew. -/
theorem room_replace (h : file t d = some f) : room (t.set d (some g)) = room t := by
  have hroom := room_set (x := some g) (lt_length_of_file h)
  rw [h] at hroom
  exact hroom

theorem room_le_length : room t ≤ t.length := List.countP_le_length

/-! ## Opening -/

theorem hits_none : hits (· = none) t = Free t := by
  ext d
  constructor
  · rintro ⟨x, hx, rfl⟩
    exact hx
  · exact fun h => ⟨none, h, rfl⟩

/-- The table in which the lowest free descriptor has been opened. -/
structure Opens (t : Files F) (d : ℕ) (f : F) (t' : Files F) : Prop where
  least : IsLeast (Free t) d
  self : file t' d = some f
  other : ∀ e, e ≠ d → file t' e = file t e
  free : Free t' = Free t \ {d}
  room : room t' + 1 = room t

/-- **The lowest free descriptor** is the one that is opened. -/
theorem exists_alloc (f : F) (h : 0 < room t) :
    ∃ d t', alloc t f = some (d, t') ∧ Opens t d f t' := by
  obtain ⟨x, hx, hnone⟩ := List.countP_pos_iff.mp h
  obtain rfl := Option.isNone_iff_eq_none.mp hnone
  obtain ⟨i, hi⟩ := List.mem_iff_getElem?.mp hx
  obtain ⟨d, -, hd⟩ := exists_isLeast_le (P := (· = none)) (Q := (· = none)) (fun _ => id)
    ⟨none, hi, rfl⟩
  have halloc : alloc t f = some (d, t.set d (some f)) := by
    rw [alloc, (findIdx?_eq_some_iff fun x => Option.isNone_iff_eq_none).mpr hd]
    rfl
  rw [hits_none] at hd
  exact ⟨d, _, halloc, hd, file_set_self (lt_length_of_free hd.1), fun e he => file_set_of_ne he,
    free_set, room_set_free hd.1⟩

theorem alloc_eq_none (h : room t = 0) : alloc t f = none := by
  have hnone : ∀ x ∈ t, ¬ x = none := fun x hx hx' =>
    List.countP_eq_zero.mp h x hx (Option.isNone_iff_eq_none.mpr hx')
  rw [alloc, (findIdx?_eq_none_iff fun x => Option.isNone_iff_eq_none).mpr hnone]
  rfl

/-- **A pipe** takes the two lowest free descriptors. -/
theorem exists_pipe (f g : F) (h : 2 ≤ room t) :
    ∃ d e u t', pipe t f g = some (d, e, t') ∧ Opens t d f u ∧ Opens u e g t' := by
  obtain ⟨d, u, halloc, hu⟩ := exists_alloc f (show 0 < room t by omega)
  have hroom := hu.room
  obtain ⟨e, t', halloc', ht'⟩ := exists_alloc g (show 0 < room u by omega)
  refine ⟨d, e, u, t', ?_, hu, ht'⟩
  rw [pipe, halloc, Option.bind_some, halloc']
  rfl

/-- A pipe needs two descriptors. -/
theorem pipe_eq_none (h : room t < 2) : pipe t f g = none := by
  rcases Nat.eq_zero_or_pos (room t) with hzero | hpos
  · rw [pipe, alloc_eq_none hzero, Option.bind_none]
  · obtain ⟨d, u, halloc, hu⟩ := exists_alloc f hpos
    have hroom := hu.room
    rw [pipe, halloc, Option.bind_some, alloc_eq_none (show room u = 0 by omega)]
    rfl

namespace Opens
variable {t' : Files F} (h : Opens t d f t')
include h

theorem ne (hg : file t e = some g) : e ≠ d := ne_of_free hg h.least.1

/-- What was open is open on its file. -/
theorem kept (hg : file t e = some g) : file t' e = some g := by
  rw [h.other e (h.ne hg), hg]

end Opens

end SimpleTests.DescriptorTable
