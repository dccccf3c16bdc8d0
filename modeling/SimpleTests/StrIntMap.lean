import SimpleTests.CStringCompare
import SimpleTests.FirstMatch

/-! # Two lookups of a name in a table

`CStrIntMap<T>::get_str_int()` of `str2int_map/template_class.cpp` and `str_to_int()` of
`str2int_map/template_free_function.cpp` go through a table of names and return the index of
the first one that compares as equal.  One compares with `strcmp()` and returns a `size_t`,
the other one with `strcasecmp()` and returns an `int`.

`LooksUp` says what a lookup is for, whatever it takes for the same name, and the loop does
that (`looksUp_lookup`).  The rest follows from the two notions of the same name alone: what
is the same byte for byte is the same ignoring case (`LooksUp.exists_le`).
-/
namespace SimpleTests.StrIntMap
open CStrings FirstMatch

/-- `struct str_int_entry` -/
structure StrIntEntry where
  name : CStr
  id : Int32
  deriving DecidableEq

/-- The `for` loop of the two functions from the index `i` on, where the table goes on with
these entries. -/
def scan (compare : CStr → ℤ) : List StrIntEntry → UInt64 → Option UInt64
  | [], _ => none
  | entry :: rest, i => if compare entry.name = 0 then some i else scan compare rest (i + 1)

/-- The body of the two functions; the name may be a null pointer.  They differ in how they
compare and in the type of what they return. -/
def lookup {β : Type} (compare : CStr → CStr → ℤ) (index : UInt64 → β) (failure : β)
    (table : List StrIntEntry) (name : Option CStr) : β :=
  match name with
  | none => failure
  | some name =>
    if name.byte 0 = 0 then failure
    else
      match scan (compare name) table 0 with
      | some i => index i
      | none => failure

/-- `class CStrIntMap` -/
structure CStrIntMap where
  table : List StrIntEntry

/-- `CStrIntMap::get_str_int()` -/
def CStrIntMap.getStrInt (m : CStrIntMap) (name : Option CStr) : UInt64 :=
  lookup strcmp id (-1) m.table name

/-- `str_to_int()`.  The index is converted to an `int`. -/
def strToInt (name : Option CStr) (table : List StrIntEntry) : Int32 :=
  lookup strcasecmp (fun i => .ofNat i.toNat) (-1) table name

/-- `INT_MAX` -/
def intMax : ℕ := 2147483647

/-! ## What a lookup is for -/

variable {same same' : CStr → CStr → Prop} {table : List StrIntEntry} {name : Option CStr}
  {failure failure' result result' : ℤ}

/-- The indices of the entries whose name is the same as `s`. -/
def occurrences (same : CStr → CStr → Prop) (table : List StrIntEntry) (s : CStr) : Set ℕ :=
  hits (fun entry => same s entry.name) table

/-- The name is null, empty or not in the table. -/
def Absent (same : CStr → CStr → Prop) (table : List StrIntEntry) (name : Option CStr) : Prop :=
  name = none ∨ ∃ s, name = some s ∧ (s.bytes = [] ∨ ∀ entry ∈ table, ¬ same s entry.name)

theorem not_absent {s : CStr} {i : ℕ} (hbytes : s.bytes ≠ [])
    (hi : i ∈ occurrences same table s) : ¬ Absent same table (some s) := by
  rintro (hnull | ⟨t, ⟨⟩, hempty | hno⟩)
  · exact nomatch hnull
  · exact hbytes hempty
  · obtain ⟨entry, hentry, hsame⟩ := hi
    exact hno entry (List.mem_of_getElem? hentry) hsame

/-- The result is the least index of the name, and the failure value exactly if the name is
absent. -/
structure LooksUp (same : CStr → CStr → Prop) (table : List StrIntEntry) (name : Option CStr)
    (failure result : ℤ) : Prop where
  least : ∀ (s : CStr) (i : ℕ), name = some s → s.bytes ≠ [] →
    IsLeast (occurrences same table s) i → result = i
  failure_iff : result = failure ↔ Absent same table name

/-- The names of the table are pairwise different. -/
def Distinct (same : CStr → CStr → Prop) (table : List StrIntEntry) : Prop :=
  table.Pairwise fun entry entry' => ¬ same entry.name entry'.name

theorem Distinct.of_imp (hsame : ∀ s t, same s t → same' s t) (h : Distinct same' table) :
    Distinct same table := by
  refine List.Pairwise.imp ?_ h
  intro entry entry' hne heq
  exact hne (hsame _ _ heq)

/-- A name occurs once at most if the names of the table are different. -/
theorem Distinct.subsingleton_occurrences (heucl : ∀ s t u, same s t → same s u → same t u)
    (h : Distinct same table) (s : CStr) : (occurrences same table s).Subsingleton := by
  refine subsingleton_hits ?_ h
  intro entry entry' hs hs'
  exact heucl s _ _ hs hs'

namespace LooksUp

theorem failed (h : Absent same table name) : LooksUp same table name failure failure := by
  refine ⟨?_, iff_of_true rfl h⟩
  rintro s i rfl hbytes hi
  exact absurd h (not_absent hbytes hi.1)

theorem found {s : CStr} {k : ℕ} (hbytes : s.bytes ≠ []) (hk : IsLeast (occurrences same table s) k)
    (hne : (k : ℤ) ≠ failure) : LooksUp same table (some s) failure k := by
  constructor
  · rintro t i ⟨⟩ - hi
    exact congrArg _ (hk.unique hi)
  · exact iff_of_false hne (not_absent hbytes hk.1)

/-- A lookup that does not fail found a name of the table. -/
theorem exists_isLeast (h : LooksUp same table name failure result) (hne : result ≠ failure) :
    ∃ (s : CStr) (i : ℕ), name = some s ∧ s.bytes ≠ [] ∧
      IsLeast (occurrences same table s) i ∧ result = i := by
  have hnot : ¬ Absent same table name := mt h.failure_iff.mpr hne
  unfold Absent at hnot
  push Not at hnot
  obtain ⟨hnull, hmatch⟩ := hnot
  obtain ⟨s, rfl⟩ := Option.ne_none_iff_exists'.mp hnull
  obtain ⟨hbytes, entry, hmem, hsame⟩ := hmatch s rfl
  obtain ⟨k, hk⟩ := List.mem_iff_getElem?.mp hmem
  have hocc : k ∈ occurrences same table s := ⟨entry, hk, hsame⟩
  obtain ⟨i, -, hi⟩ := exists_isLeast_le (fun _ h => h) hocc
  exact ⟨s, i, rfl, hbytes, hi, h.least s i rfl hbytes hi⟩

/-- **Two lookups of one name**, where the second one takes more names for the same.  If the
first one finds an index, the second one finds it or one before. -/
theorem exists_le (hsame : ∀ s t, same s t → same' s t)
    (heucl : ∀ s t u, same' s t → same' s u → same' t u)
    (h : LooksUp same table name failure result) (h' : LooksUp same' table name failure' result')
    (hne : result ≠ failure) :
    ∃ i j : ℕ, result = i ∧ result' = j ∧ j ≤ i ∧ (Distinct same' table → j = i) := by
  obtain ⟨s, i, hname, hbytes, hi, hresult⟩ := h.exists_isLeast hne
  have himp : ∀ entry : StrIntEntry, same s entry.name → same' s entry.name :=
    fun entry => hsame s entry.name
  obtain ⟨j, hle, hj⟩ := exists_isLeast_le himp hi.1
  refine ⟨i, j, hresult, h'.least s j hname hbytes hj, hle, ?_⟩
  intro hdistinct
  have hocc : i ∈ occurrences same' table s := hits_mono himp hi.1
  exact hdistinct.subsingleton_occurrences heucl s hj.1 hocc

/-- A name of the table is found where it stands if the names of the table are different. -/
theorem eq_of_getElem? (hrefl : ∀ s, same s s)
    (heucl : ∀ s t u, same s t → same s u → same t u) (hdistinct : Distinct same table)
    {i : ℕ} {entry : StrIntEntry} (hentry : table[i]? = some entry) (hbytes : entry.name.bytes ≠ [])
    (h : LooksUp same table (some entry.name) failure result) : result = i := by
  have hocc : i ∈ occurrences same table entry.name := ⟨entry, hentry, hrefl _⟩
  refine h.least entry.name i rfl hbytes ⟨hocc, ?_⟩
  intro j hj
  exact (hdistinct.subsingleton_occurrences heucl entry.name hocc hj).le

end LooksUp

/-! ## What the loop does -/

theorem scan_eq (compare : CStr → ℤ) (table : List StrIntEntry) (i : UInt64) :
    scan compare table i =
      (table.findIdx? fun entry => compare entry.name = 0).map fun k => i + .ofNat k := by
  induction table generalizing i with
  | nil => rfl
  | cons entry rest ih =>
    unfold scan
    rw [List.findIdx?_cons]
    by_cases h : compare entry.name = 0
    · simp [h]
    · simp only [h, if_false, decide_false, Bool.false_eq_true, ih, Option.map_map]
      congr 1
      funext k
      show i + 1 + .ofNat k = i + .ofNat (k + 1)
      rw [UInt64.ofNat_add, UInt64.add_assoc, UInt64.add_comm 1]
      rfl

/-- **The body of the two functions looks up**, for a comparison that is 0 at the names that
are the same, and an index and a failure value that the result type can tell apart. -/
theorem looksUp_lookup {β : Type} {compare : CStr → CStr → ℤ} {index : UInt64 → β} {failure : β}
    (value : β → ℤ) (hcompare : ∀ s t, compare s t = 0 ↔ same s t)
    (hindex : ∀ k < table.length, value (index (.ofNat k)) = k)
    (hfailure : ∀ k < table.length, value failure ≠ k) :
    LooksUp same table name (value failure) (value (lookup compare index failure table name)) := by
  cases name with
  | none => exact .failed (.inl rfl)
  | some s =>
    have hp : ∀ entry : StrIntEntry,
        decide (compare s entry.name = 0) = true ↔ same s entry.name :=
      fun entry => decide_eq_true_iff.trans (hcompare s entry.name)
    by_cases hbytes : s.bytes = []
    · have hval : lookup compare index failure table (some s) = failure :=
        if_pos (CStr.byte_zero_eq_zero_iff.mpr hbytes)
      rw [hval]
      exact .failed (.inr ⟨s, rfl, .inl hbytes⟩)
    · have hval : lookup compare index failure table (some s) =
          match scan (compare s) table 0 with
          | some i => index i
          | none => failure :=
        if_neg (mt CStr.byte_zero_eq_zero_iff.mp hbytes)
      rw [hval, scan_eq]
      cases hfind : table.findIdx? fun entry => compare s entry.name = 0 with
      | none =>
        have hno : ∀ entry ∈ table, ¬ same s entry.name := (findIdx?_eq_none_iff hp).mp hfind
        exact .failed (.inr ⟨s, rfl, .inr hno⟩)
      | some k =>
        have hk : IsLeast (occurrences same table s) k := (findIdx?_eq_some_iff hp).mp hfind
        have hlt : k < table.length := lt_length_of_mem_hits hk.1
        have hres : value (index (0 + .ofNat k)) = k := by rw [UInt64.zero_add, hindex k hlt]
        show LooksUp same table (some s) (value failure) (value (index (0 + .ofNat k)))
        rw [hres]
        exact .found hbytes hk (hfailure k hlt).symm

/-- An index of the table fits into a `size_t`. -/
theorem toNat_index (hlen : table.length ≤ intMax) {k : ℕ} (hk : k < table.length) :
    (UInt64.ofNat k).toNat = k := by
  unfold intMax at hlen
  exact UInt64.toNat_ofNat_of_lt' (show k < 18446744073709551616 by omega)

/-- `get_str_int()` finds the name byte for byte. -/
theorem looksUp_getStrInt (hlen : table.length ≤ intMax) (name : Option CStr) :
    LooksUp Eq table name (-1 : UInt64).toNat ((CStrIntMap.mk table).getStrInt name).toNat := by
  refine looksUp_lookup (fun r : UInt64 => (r.toNat : ℤ)) (fun _ _ => strcmp_eq_zero_iff) ?_ ?_
  · intro k hk
    exact congrArg _ (toNat_index hlen hk)
  · intro k hk
    show (18446744073709551615 : ℤ) ≠ k
    unfold intMax at hlen
    omega

/-- `str_to_int()` finds the name whatever the case of its letters. -/
theorem looksUp_strToInt (hlen : table.length ≤ intMax) (name : Option CStr) :
    LooksUp CStr.SameIgnoringCase table name (-1) (strToInt name table).toInt := by
  show LooksUp _ table name (-1 : Int32).toInt _
  refine looksUp_lookup (fun r : Int32 => r.toInt) (fun _ _ => strcasecmp_eq_zero_iff) ?_ ?_
  · intro k hk
    show (Int32.ofNat (UInt64.ofNat k).toNat).toInt = k
    rw [toNat_index hlen hk]
    unfold intMax at hlen
    exact Int32.toInt_ofNat_of_lt (by omega)
  · intro k _
    show (-1 : ℤ) ≠ k
    omega

/-- **The two lookups agree.**  `get_str_int()` returns the least index of the name byte for
byte, and `str_to_int()` the least index ignoring case, which is the same or one before.  In
a table whose names are different even ignoring case they find the same, and every name. -/
theorem lookups_agree (table : List StrIntEntry) (hlen : table.length ≤ intMax) :
    (∀ name : Option CStr,
      LooksUp Eq table name (-1 : UInt64).toNat ((CStrIntMap.mk table).getStrInt name).toNat ∧
      LooksUp CStr.SameIgnoringCase table name (-1) (strToInt name table).toInt ∧
      ((CStrIntMap.mk table).getStrInt name ≠ -1 →
        ∃ j ≤ ((CStrIntMap.mk table).getStrInt name).toNat, (strToInt name table).toInt = j ∧
          (Distinct CStr.SameIgnoringCase table →
            j = ((CStrIntMap.mk table).getStrInt name).toNat))) ∧
    (Distinct CStr.SameIgnoringCase table → (∀ entry ∈ table, entry.name.bytes ≠ []) →
      ∀ (i : ℕ) (entry : StrIntEntry), table[i]? = some entry →
        ((CStrIntMap.mk table).getStrInt (some entry.name)).toNat = i ∧
        (strToInt (some entry.name) table).toInt = i) := by
  have heq : ∀ s t : CStr, s = t → s.SameIgnoringCase t := fun s t h => h ▸ .refl s
  have heucl : ∀ s t u : CStr, s.SameIgnoringCase t → s.SameIgnoringCase u → t.SameIgnoringCase u :=
    fun _ _ _ => .euclidean
  constructor
  · intro name
    have hget := looksUp_getStrInt hlen name
    have hto := looksUp_strToInt hlen name
    refine ⟨hget, hto, fun hne => ?_⟩
    have hne' : (((CStrIntMap.mk table).getStrInt name).toNat : ℤ) ≠ (-1 : UInt64).toNat := by
      intro h
      exact hne (UInt64.toNat_inj.mp (Int.ofNat_inj.mp h))
    obtain ⟨i, j, hi, hj, hle, hsame⟩ := hget.exists_le heq heucl hto hne'
    have hi' : ((CStrIntMap.mk table).getStrInt name).toNat = i := Int.ofNat_inj.mp hi
    rw [hi']
    exact ⟨j, hle, hj, hsame⟩
  · intro hdistinct hnames i entry hentry
    have hbytes := hnames entry (List.mem_of_getElem? hentry)
    constructor
    · have hget := (looksUp_getStrInt hlen (some entry.name)).eq_of_getElem? Eq.refl
        (fun _ _ _ h h' => h.symm.trans h') (hdistinct.of_imp heq) hentry hbytes
      exact Int.ofNat_inj.mp hget
    · exact (looksUp_strToInt hlen (some entry.name)).eq_of_getElem? .refl heucl hdistinct
        hentry hbytes

/-- `"GET"` -/
def get : CStr := ⟨[71, 69, 84], by decide⟩

/-- `"POST"` -/
def post : CStr := ⟨[80, 79, 83, 84], by decide⟩

/-- `arr1` of the class, `data_tbl1` of the free function. -/
def arr1 : List StrIntEntry := [⟨get, 1⟩, ⟨post, 2⟩]

theorem lookups_agree_arr1 :
    (∃ j ≤ ((CStrIntMap.mk arr1).getStrInt (some post)).toNat,
      (strToInt (some post) arr1).toInt = j ∧
      (Distinct CStr.SameIgnoringCase arr1 →
        j = ((CStrIntMap.mk arr1).getStrInt (some post)).toNat)) ∧
    ((CStrIntMap.mk arr1).getStrInt (some post)).toNat = 1 ∧
    (strToInt (some post) arr1).toInt = 1 := by
  obtain ⟨hlookups, hnames⟩ := lookups_agree arr1 (by decide)
  have hdistinct : Distinct CStr.SameIgnoringCase arr1 := by
    unfold Distinct
    decide
  obtain ⟨-, -, hfound⟩ := hlookups (some post)
  exact ⟨hfound (by decide), hnames hdistinct (by decide) 1 ⟨post, 2⟩ rfl⟩

end SimpleTests.StrIntMap
