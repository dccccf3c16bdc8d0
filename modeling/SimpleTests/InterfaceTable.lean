import SimpleTests.TextLines
import Mathlib.Data.UInt

/-! # The table of the network interfaces

What `mygetifaddrs()` of `mock/ifs/mylib.c` prints for an interface: a line with the name and
the family, and behind it the address, or two lines with counters, or nothing.

`readTable` gets the rows back from the text (`readTable_printed`), so that nothing that the
program shows of an interface can be mistaken for something else.  It needs that a name has no
white space in it, as the names of interfaces have not, and that an address is on one line.
-/
namespace SimpleTests.Interfaces
open DecimalText TextLines

/-- `AF_INET`, `AF_INET6` and `AF_PACKET` -/
def afInet : ℕ := 2
def afInet6 : ℕ := 10
def afPacket : ℕ := 17

/-- `struct rtnl_link_stats`, as far as it is printed. -/
structure LinkStats where
  txPackets : UInt32
  rxPackets : UInt32
  txBytes : UInt32
  rxBytes : UInt32
  deriving DecidableEq

/-- What is printed behind the line of an interface. -/
inductive Detail
  | nothing
  | address (host : Text)
  | stats (stats : LinkStats)
  deriving DecidableEq

/-- An interface of the table. -/
structure Row where
  ifaName : Text
  family : ℕ
  detail : Detail
  deriving DecidableEq

/-! ## Printing -/

/-- The symbolic form of the family. -/
def familyName (family : ℕ) : Text :=
  if family = afPacket then "AF_PACKET".toList
  else if family = afInet then "AF_INET".toList
  else if family = afInet6 then "AF_INET6".toList
  else "???".toList

/-- `"%-8s %s (%d)"` -/
def header (ifaName : Text) (family : ℕ) : Text :=
  padRight 8 ifaName ++ ' ' :: familyName family ++ " (".toList ++ Nat.toDigits 10 family ++ [')']

def addressLabel : Text := "\t\taddress: <".toList

/-- `"\t\taddress: <%s>"` -/
def addressLine (host : Text) : Text := addressLabel ++ host ++ ['>']

/-- `"%10u"` -/
def counter (n : UInt32) : Text := padLeft 10 (Nat.toDigits 10 n.toNat)

/-- `"\t\ttx_packets = %10u; rx_packets = %10u"` -/
def packetsLine (s : LinkStats) : Text :=
  "\t\ttx_packets = ".toList ++ (counter s.txPackets ++
    ';' :: (" rx_packets = ".toList ++ counter s.rxPackets))

/-- `"\t\ttx_bytes   = %10u; rx_bytes   = %10u"` -/
def bytesLine (s : LinkStats) : Text :=
  "\t\ttx_bytes   = ".toList ++ (counter s.txBytes ++
    ';' :: (" rx_bytes   = ".toList ++ counter s.rxBytes))

def Detail.lines : Detail → List Text
  | .nothing => []
  | .address host => [addressLine host]
  | .stats s => [packetsLine s, bytesLine s]

def Row.lines (r : Row) : List Text := header r.ifaName r.family :: r.detail.lines

/-- What is printed for the interfaces. -/
def printed (rows : List Row) : Text := rows.flatMap fun r => unlines r.lines

/-! ## Reading -/

/-- The lines of details are indented. -/
def isDetail (l : Text) : Bool := l.head? == some '\t'

/-- The name in front of the first blank. -/
def nameOf (l : Text) : Text := l.takeWhile (· != ' ')

/-- The number behind the parenthesis; the name may have one, too. -/
def familyOf (l : Text) : ℕ :=
  (numbers ((l.dropWhile (· != ' ')).dropWhile (· != '('))).headD 0

def detailOf : List Text → Detail
  | [] => .nothing
  | [l] => .address ((l.drop addressLabel.length).dropLast)
  | l :: l' :: _ =>
    match numbers l ++ numbers l' with
    | [txPackets, rxPackets, txBytes, rxBytes] =>
      .stats ⟨.ofNat txPackets, .ofNat rxPackets, .ofNat txBytes, .ofNat rxBytes⟩
    | _ => .nothing

/-- One more line, in front of the details and the rows behind it. -/
def readLine (l : Text) (x : List Text × List Row) : List Text × List Row :=
  if isDetail l then (l :: x.1, x.2) else ([], ⟨nameOf l, familyOf l, detailOf x.1⟩ :: x.2)

/-- The rows of a printed table. -/
def readTable (s : Text) : List Row := ((lines s).foldr readLine ([], [])).2

/-- The row can be told from its lines. -/
structure Row.Plain (r : Row) : Prop where
  name : ∀ c ∈ r.ifaName, isSpace c = false
  host : ∀ host, r.detail = .address host → '\n' ∉ host

variable {r : Row} {ifaName host : Text} {family : ℕ} {s : LinkStats}

/-! ### The line of the interface -/

theorem familyName_cases (family : ℕ) : familyName family = "AF_PACKET".toList ∨
    familyName family = "AF_INET".toList ∨ familyName family = "AF_INET6".toList ∨
    familyName family = "???".toList := by
  unfold familyName
  split_ifs <;> simp

theorem notMem_familyName (family : ℕ) : '(' ∉ familyName family ∧ '\n' ∉ familyName family := by
  rcases familyName_cases family with h | h | h | h <;> rw [h] <;> decide

/-- The line is the name, some blanks, and the family. -/
theorem exists_header (ifaName : Text) (family : ℕ) : ∃ n, header ifaName family =
    ifaName ++ ' ' :: (List.replicate n ' ' ++ familyName family ++ [' ']) ++
      '(' :: (Nat.toDigits 10 family ++ [')']) := by
  have hblank : ∀ n : ℕ, ∀ t : Text,
      List.replicate n ' ' ++ ' ' :: t = ' ' :: (List.replicate n ' ' ++ t) := by
    intro n t
    induction n with
    | zero => rfl
    | succ n ih => exact congrArg (' ' :: ·) ih
  refine ⟨8 - ifaName.length, ?_⟩
  rw [header, padRight, List.rightpad, show " (".toList = [' ', '('] from rfl]
  simp only [List.append_assoc, List.cons_append, List.nil_append, hblank]

variable (h : ∀ c ∈ ifaName, isSpace c = false)
include h

theorem ne_blank : ∀ c ∈ ifaName, (c != ' ') = true := by
  intro c hc
  rw [bne_iff_ne]
  rintro rfl
  exact absurd (h _ hc) (by decide)

theorem nameOf_header (family : ℕ) : nameOf (header ifaName family) = ifaName := by
  obtain ⟨n, hn⟩ := exists_header ifaName family
  rw [hn, nameOf, List.append_assoc, List.takeWhile_append_of_pos (ne_blank h), List.cons_append,
    List.takeWhile_cons_of_neg (by decide), List.append_nil]

theorem familyOf_header (family : ℕ) : familyOf (header ifaName family) = family := by
  obtain ⟨n, hn⟩ := exists_header ifaName family
  have hbefore : ∀ c ∈ ' ' :: (List.replicate n ' ' ++ familyName family ++ [' ']),
      (c != '(') = true := by
    intro c hc
    rw [bne_iff_ne]
    rintro rfl
    simp only [List.mem_cons, List.mem_append, List.mem_replicate, List.not_mem_nil] at hc
    rcases hc with hc | ((⟨-, hc⟩ | hc) | hc | hc)
    · exact absurd hc (by decide)
    · exact absurd hc (by decide)
    · exact (notMem_familyName family).1 hc
    · exact absurd hc (by decide)
    · exact hc
  have hname : (ifaName ++ ' ' :: (List.replicate n ' ' ++ familyName family ++ [' ']) ++
      '(' :: (Nat.toDigits 10 family ++ [')'])).dropWhile (· != ' ') =
      ' ' :: (List.replicate n ' ' ++ familyName family ++ [' ']) ++
        '(' :: (Nat.toDigits 10 family ++ [')']) := by
    rw [List.append_assoc, List.dropWhile_append_of_pos (ne_blank h), List.cons_append,
      List.dropWhile_cons_of_neg (by decide)]
  rw [hn, familyOf, hname, List.dropWhile_append_of_pos hbefore,
    List.dropWhile_cons_of_neg (by decide), numbers_cons (by decide),
    numbers_digits_append (digits_toDigits family) (by decide), value_toDigits]
  rfl

/-- It is not indented. -/
theorem isDetail_header (family : ℕ) : isDetail (header ifaName family) = false := by
  obtain ⟨n, hn⟩ := exists_header ifaName family
  rw [hn, isDetail]
  cases ifaName with
  | nil => rfl
  | cons c name =>
    have hc : c ≠ '\t' := by
      rintro rfl
      exact absurd (h _ List.mem_cons_self) (by decide)
    simpa using hc

theorem lineFeed_notMem_header (family : ℕ) : '\n' ∉ header ifaName family := by
  obtain ⟨n, hn⟩ := exists_header ifaName family
  have hname : '\n' ∉ ifaName := fun hmem => absurd (h _ hmem) (by decide)
  have hfamily := (notMem_familyName family).2
  have hdigits : '\n' ∉ Nat.toDigits 10 family := notMem_toDigits (by decide) family
  rw [hn]
  simp [hname, hfamily, hdigits]

omit h

/-! ### The lines of the details -/

theorem detailOf_address : detailOf [addressLine host] = .address host := by
  have hdrop : (addressLine host).drop addressLabel.length = host ++ ['>'] := by
    rw [addressLine, List.append_assoc, List.drop_left]
  simp only [detailOf, hdrop, List.dropLast_concat]

/-- Two counters with their labels. -/
theorem numbers_counters {label label' : Text} (h : label.any Char.isDigit = false)
    (h' : label'.any Char.isDigit = false) (m n : UInt32) :
    numbers (label ++ (counter m ++ ';' :: (label' ++ counter n))) = [m.toNat, n.toNat] := by
  rw [numbers_append h, counter, numbers_padLeft_append _ _ (c := ';') rfl, numbers_append h',
    counter, numbers_padLeft]

theorem lineFeed_notMem_counters {label label' : Text} (h : '\n' ∉ label) (h' : '\n' ∉ label')
    (m n : UInt32) : '\n' ∉ label ++ (counter m ++ ';' :: (label' ++ counter n)) := by
  have hcounter (n : UInt32) : '\n' ∉ counter n := by
    have hdigits : '\n' ∉ Nat.toDigits 10 n.toNat := notMem_toDigits (by decide) n.toNat
    simp [counter, padLeft, List.leftpad, hdigits]
  simp [h, h', hcounter]

theorem numbers_packetsLine :
    numbers (packetsLine s) = [s.txPackets.toNat, s.rxPackets.toNat] :=
  numbers_counters rfl rfl _ _

theorem numbers_bytesLine : numbers (bytesLine s) = [s.txBytes.toNat, s.rxBytes.toNat] :=
  numbers_counters rfl rfl _ _

theorem detailOf_stats : detailOf [packetsLine s, bytesLine s] = .stats s := by
  have hnumbers : numbers (packetsLine s) ++ numbers (bytesLine s) =
      [s.txPackets.toNat, s.rxPackets.toNat, s.txBytes.toNat, s.rxBytes.toNat] := by
    rw [numbers_packetsLine, numbers_bytesLine]
    rfl
  simp only [detailOf, hnumbers, UInt32.ofNat_toNat]

theorem detailOf_lines (d : Detail) : detailOf d.lines = d := by
  cases d with
  | nothing => rfl
  | address host => exact detailOf_address
  | stats s => exact detailOf_stats

theorem isDetail_of_mem_lines (d : Detail) : ∀ l ∈ d.lines, isDetail l = true := by
  intro l hl
  cases d with
  | nothing => cases hl
  | address host =>
    obtain rfl := List.mem_singleton.mp hl
    rfl
  | stats s =>
    simp only [Detail.lines, List.mem_cons, List.not_mem_nil, or_false] at hl
    rcases hl with rfl | rfl <;> rfl

/-! ### The table -/

/-- The details are collected until their row comes. -/
theorem foldr_details {ls : List Text} (h : ∀ l ∈ ls, isDetail l = true) (rows : List Row) :
    ls.foldr readLine ([], rows) = (ls, rows) := by
  induction ls with
  | nil => rfl
  | cons l ls ih =>
    rw [List.foldr_cons, ih fun l' hl' => h l' (List.mem_cons_of_mem _ hl')]
    exact if_pos (h l List.mem_cons_self)

theorem foldr_row (h : r.Plain) (rows : List Row) :
    r.lines.foldr readLine ([], rows) = ([], r :: rows) := by
  rw [Row.lines, List.foldr_cons, foldr_details (isDetail_of_mem_lines r.detail)]
  show (if isDetail (header r.ifaName r.family) = true then _ else _) = _
  rw [if_neg (by simp [isDetail_header h.name]), nameOf_header h.name, familyOf_header h.name,
    detailOf_lines]

theorem lineFeed_notMem_lines (h : r.Plain) : ∀ l ∈ r.lines, '\n' ∉ l := by
  intro l hl
  rcases List.mem_cons.mp hl with rfl | hl
  · exact lineFeed_notMem_header h.name r.family
  · cases hd : r.detail with
    | nothing =>
      rw [hd] at hl
      cases hl
    | address host =>
      rw [hd] at hl
      obtain rfl := List.mem_singleton.mp hl
      simp only [addressLine, List.mem_append, not_or]
      exact ⟨⟨by decide, h.host host hd⟩, by decide⟩
    | stats s =>
      rw [hd] at hl
      simp only [Detail.lines, List.mem_cons, List.not_mem_nil, or_false] at hl
      rcases hl with rfl | rfl
      · exact lineFeed_notMem_counters (by decide) (by decide) _ _
      · exact lineFeed_notMem_counters (by decide) (by decide) _ _

theorem printed_eq (rows : List Row) : printed rows = unlines (rows.flatMap Row.lines) := by
  rw [printed, unlines, List.flatMap_assoc]
  rfl

/-- **The table is read back** from what is printed. -/
theorem readTable_printed {rows : List Row} (h : ∀ r ∈ rows, r.Plain) :
    readTable (printed rows) = rows := by
  have hlines : ∀ l ∈ rows.flatMap Row.lines, '\n' ∉ l := by
    intro l hl
    obtain ⟨r, hr, hl⟩ := List.mem_flatMap.mp hl
    exact lineFeed_notMem_lines (h r hr) l hl
  rw [readTable, printed_eq, lines_unlines hlines]
  have hfold : (rows.flatMap Row.lines).foldr readLine ([], []) = ([], rows) := by
    clear hlines
    induction rows with
    | nil => rfl
    | cons r rows ih =>
      rw [List.flatMap_cons, List.foldr_append, ih fun r' hr' => h r' (List.mem_cons_of_mem _ hr')]
      exact foldr_row (h r List.mem_cons_self) rows
  rw [hfold]

end SimpleTests.Interfaces
