import SimpleTests.DecimalText

/-! # Lines of text, and the numbers in them

A program that prints a table writes lines, each with its line feed, and puts numbers into
fields of a fixed width.  `lines` gives the lines back (`lines_unlines`), and `numbers` the
numbers of a line, wherever they stand in it: what stands between them does not matter, as
long as there is no digit in it (`numbers_append`, `numbers_toDigits_append`).
-/
namespace SimpleTests.TextLines
open DecimalText

/-- Lines, each with its line feed. -/
def unlines (ls : List Text) : Text := ls.flatMap (· ++ ['\n'])

/-- The lines of a text in which each line has its line feed. -/
def lines (s : Text) : List Text := (s.splitOn '\n').dropLast

/-- The numbers in a text: its runs of digits. -/
def numbers (s : Text) : List ℕ :=
  ((s.splitOnP fun c => !c.isDigit).filter fun run => !run.isEmpty).map value

/-- A text in a field with blanks before it, as `%10u` has it. -/
def padLeft (width : ℕ) (s : Text) : Text := s.leftpad width ' '

/-- A text in a field with blanks behind it, as `%-8s` has it. -/
def padRight (width : ℕ) (s : Text) : Text := s.rightpad width ' '

variable {s t : Text} {c : Char}

/-! ## Lines -/

theorem unlines_append (ls ls' : List Text) : unlines (ls ++ ls') = unlines ls ++ unlines ls' :=
  List.flatMap_append

theorem splitOn_line (h : '\n' ∉ s) (rest : Text) :
    (s ++ '\n' :: rest).splitOn '\n' = s :: rest.splitOn '\n' := by
  rw [List.splitOn_eq_splitOnP, List.splitOn_eq_splitOnP]
  refine List.splitOnP_append_cons_of_forall_mem (fun c hc => ?_) '\n' (by decide) rest
  rw [beq_eq_false_iff_ne]
  rintro rfl
  exact h hc

/-- **The lines are read back**, if there is no line feed in them. -/
theorem lines_unlines {ls : List Text} (h : ∀ l ∈ ls, '\n' ∉ l) : lines (unlines ls) = ls := by
  have hsplit : (unlines ls).splitOn '\n' = ls ++ [[]] := by
    induction ls with
    | nil => rfl
    | cons l ls ih =>
      have htail := ih fun l' hl' => h l' (List.mem_cons_of_mem _ hl')
      show (l ++ ['\n'] ++ unlines ls).splitOn '\n' = _
      rw [List.append_assoc, List.singleton_append, splitOn_line (h l List.mem_cons_self), htail]
      rfl
  rw [lines, hsplit, List.dropLast_concat]

/-! ## Numbers -/

theorem numbers_cons (h : c.isDigit = false) : numbers (c :: s) = numbers s := by
  rw [numbers, List.splitOnP_cons_eq_if_modifyHead, if_pos (by rw [h]; rfl)]
  rfl

/-- A text without digits is passed over. -/
theorem numbers_append (h : s.any Char.isDigit = false) : numbers (s ++ t) = numbers t := by
  induction s with
  | nil => rfl
  | cons c s ih =>
    rw [List.any_cons, Bool.or_eq_false_iff] at h
    rw [List.cons_append, numbers_cons h.1]
    exact ih h.2

theorem any_blanks (n : ℕ) : (List.replicate n ' ').any Char.isDigit = false := by
  rw [List.any_eq_false]
  intro c hc
  rw [List.eq_of_mem_replicate hc]
  decide

theorem numbers_digits (h : Digits s) : numbers s = [value s] := by
  have hsplit : (s.splitOnP fun c => !c.isDigit) = [s] :=
    List.splitOnP_eq_singleton fun c hc => by rw [h.isDigit c hc]; rfl
  have hne : (!s.isEmpty) = true := by simp [h.ne_nil]
  rw [numbers, hsplit, List.filter_cons_of_pos (p := fun run : Text => !run.isEmpty) hne]
  rfl

theorem numbers_digits_append (h : Digits s) (hc : c.isDigit = false) :
    numbers (s ++ c :: t) = value s :: numbers t := by
  have hsplit : ((s ++ c :: t).splitOnP fun c => !c.isDigit) =
      s :: t.splitOnP fun c => !c.isDigit :=
    List.splitOnP_append_cons_of_forall_mem (fun c hc => by rw [h.isDigit c hc]; rfl) c
      (by rw [hc]; rfl) t
  have hne : (!s.isEmpty) = true := by simp [h.ne_nil]
  rw [numbers, hsplit, List.filter_cons_of_pos (p := fun run : Text => !run.isEmpty) hne]
  rfl

theorem digits_toDigits (n : ℕ) : Digits (Nat.toDigits 10 n) :=
  ⟨Nat.toDigits_ne_nil, fun _ hc => Nat.isDigit_of_mem_toDigits (by decide) (by decide) hc⟩

theorem value_toDigits (n : ℕ) : value (Nat.toDigits 10 n) = n := Nat.ofDigitChars_ten_toDigits

/-- A number in a field is read back. -/
theorem numbers_padLeft (width n : ℕ) : numbers (padLeft width (Nat.toDigits 10 n)) = [n] := by
  rw [padLeft, List.leftpad, numbers_append (any_blanks _), numbers_digits (digits_toDigits n),
    value_toDigits]

theorem numbers_padLeft_append (width n : ℕ) (hc : c.isDigit = false) :
    numbers (padLeft width (Nat.toDigits 10 n) ++ c :: t) = n :: numbers t := by
  rw [padLeft, List.leftpad, List.append_assoc, numbers_append (any_blanks _),
    numbers_digits_append (digits_toDigits n) hc, value_toDigits]

end SimpleTests.TextLines
