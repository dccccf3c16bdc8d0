import SimpleTests.CallPrograms
import SimpleTests.InterfaceTable

/-! # Walking the list of the network interfaces

`mygetifaddrs()` of `mock/ifs/mylib.c` gets the list of the interfaces, prints a table of it,
and gives the list back.  An interface without an address is passed over, and the program gives
up at the first address that has no name.

`ifs` is its contract: it asks only for addresses that are in the list while it holds it, and
gives back the list that it holds.  Every run keeps it, and is over with the whole table, or
with the table as far as the address that has no name (`mygetifaddrs_runs`).  The rows of a
whole table can be read off the text that was printed (`mygetifaddrs_readTable`).
-/
namespace SimpleTests.Interfaces
open Transition CallPrograms DecimalText TextLines

/-- `struct sockaddr` -/
structure Sockaddr where
  saFamily : UInt16
  saData : List UInt8
  deriving DecidableEq

/-- `struct ifaddrs`, as far as it is looked at. -/
structure Ifaddrs where
  ifaName : Text
  ifaAddr : Option Sockaddr
  ifaData : Option LinkStats
  deriving DecidableEq

namespace Sockaddr

/-- `sa_family`, as an `int`. -/
def family (addr : Sockaddr) : ℕ := addr.saFamily.toNat

/-- The family is one of `AF_INET*`. -/
def IsInet (addr : Sockaddr) : Prop := addr.family = afInet ∨ addr.family = afInet6

instance (addr : Sockaddr) : Decidable addr.IsInet := inferInstanceAs (Decidable (_ ∨ _))

/-- `sizeof(struct sockaddr_in)` or `sizeof(struct sockaddr_in6)` -/
def addrlen (addr : Sockaddr) : ℕ := if addr.family = afInet then 16 else 28

end Sockaddr

inductive IfCall
  | getifaddrs
  /-- `getnameinfo(addr, addrlen, host, NI_MAXHOST, NULL, 0, NI_NUMERICHOST)` -/
  | getnameinfo (addr : Sockaddr) (addrlen : ℕ)
  | freeifaddrs (ifaddr : List Ifaddrs)
  | printf (text : Text)
  | perror (s : Text)

/-- What a call returns.  An error is the value of `errno`, or the code that the call
returns. -/
abbrev IfCall.Reply : IfCall → Type
  | .getifaddrs => Except ℕ (List Ifaddrs)
  | .getnameinfo .. => Except ℤ Text
  | .freeifaddrs _ | .printf _ | .perror _ => Unit

abbrev ifInterface : Interface := ⟨IfCall, IfCall.Reply⟩

/-- The programs; the result is what the function returns, and a program that ends early has
called `exit()`. -/
abbrev IfProg : Type → Type := Prog ifInterface ℤ

def printf (text : Text) : IfProg Unit := .call (.printf text) fun _ => .done ()

/-! ## The program -/

/-- What is printed if an address has no name. -/
def noName (gaiStrerror : ℤ → Text) (s : ℤ) : Text :=
  "getnameinfo() failed: ".toList ++ gaiStrerror s ++ ['\n']

/-- The address of an interface. -/
def showAddress (gaiStrerror : ℤ → Text) (addr : Sockaddr) : IfProg Unit :=
  .call (.getnameinfo addr addr.addrlen) fun
    | .error s => .call (.printf (noName gaiStrerror s)) fun _ => .stop 1
    | .ok host => printf (unlines [addressLine host])

/-- What is behind the line of an interface. -/
def showDetail (gaiStrerror : ℤ → Text) (addr : Sockaddr) (ifaData : Option LinkStats) :
    IfProg Unit :=
  if addr.IsInet then showAddress gaiStrerror addr
  else
    match ifaData with
    | some stats =>
      if addr.family = afPacket then printf (unlines [packetsLine stats, bytesLine stats])
      else pure ()
    | none => pure ()

/-- One turn of the loop. -/
def showInterface (gaiStrerror : ℤ → Text) (ifa : Ifaddrs) : IfProg Unit :=
  match ifa.ifaAddr with
  | none => pure ()
  | some addr => do
    printf (unlines [header ifa.ifaName addr.family])
    showDetail gaiStrerror addr ifa.ifaData

/-- `mygetifaddrs()` -/
def mygetifaddrs (gaiStrerror : ℤ → Text) : IfProg ℤ :=
  .call .getifaddrs fun
    | .error _ => .call (.perror "getifaddrs".toList) fun _ => .stop 1
    | .ok ifaddr => do
      forM ifaddr (showInterface gaiStrerror)
      .call (.freeifaddrs ifaddr) fun _ => .done 0

/-! ## The contract -/

/-- What has happened so far. -/
structure IfState where
  /-- The list that was returned. -/
  got : Option (List Ifaddrs)
  /-- The list that has to be given back. -/
  held : Option (List Ifaddrs)
  /-- The addresses that were asked for, and the answers. -/
  names : List (Sockaddr × Except ℤ Text)
  stdout : Text
  /-- What `perror()` has been called with. -/
  errors : List Text

namespace IfState

def init : IfState := ⟨none, none, [], [], []⟩

variable (s : IfState)

/-- A call is made. -/
def next : (c : IfCall) → c.Reply → IfState
  | .getifaddrs, .ok ifaddr => { s with got := some ifaddr, held := some ifaddr }
  | .getifaddrs, .error _ => s
  | .getnameinfo addr _, r => { s with names := s.names ++ [(addr, r)] }
  | .freeifaddrs _, _ => { s with held := none }
  | .printf text, _ => { s with stdout := s.stdout ++ text }
  | .perror text, _ => { s with errors := s.errors ++ [text] }

/-- A call is in order. -/
def Ready : IfCall → Prop
  | .getifaddrs => s.held = none
  | .getnameinfo addr addrlen => addrlen = addr.addrlen ∧
      ∃ ifaddr, s.held = some ifaddr ∧ ∃ ifa ∈ ifaddr, ifa.ifaAddr = some addr
  | .freeifaddrs ifaddr => s.held = some ifaddr
  | .printf _ | .perror _ => True

end IfState

/-- **The contract of the program.** -/
def ifs : Contract ifInterface IfState where
  requires s c := s.Ready c
  assumes _ _ _ := True
  next s c r := s.next c r

/-! ## What is shown -/

/-- The row tells what there is to tell of an interface. -/
structure Shows (ifa : Ifaddrs) (addr : Sockaddr) (row : Row) : Prop where
  name : row.ifaName = ifa.ifaName
  family : row.family = addr.family
  detail : match row.detail with
    | .address _ => addr.IsInet
    | .stats stats => addr.family = afPacket ∧ ifa.ifaData = some stats
    | .nothing => ¬ addr.IsInet ∧ (addr.family = afPacket → ifa.ifaData = none)

/-- The interfaces that have an address, with it. -/
def visible (ifaddr : List Ifaddrs) : List (Ifaddrs × Sockaddr) :=
  ifaddr.filterMap fun ifa => ifa.ifaAddr.map (ifa, ·)

/-- The name of an address in a row. -/
def Row.host (row : Row) : Option Text :=
  match row.detail with
  | .address host => some host
  | _ => none

/-- The rows show the interfaces, and the names in them are the answers to what was asked. -/
structure Table (ifaddr : List Ifaddrs) (names : List (Sockaddr × Except ℤ Text))
    (rows : List Row) : Prop where
  shows : List.Forall₂ (fun x row => Shows x.1 x.2 row) (visible ifaddr) rows
  addrs : names.map Prod.fst = ((visible ifaddr).map Prod.snd).filter (·.IsInet)
  hosts : names.map Prod.snd = (rows.filterMap Row.host).map .ok

/-- The whole table has been printed, and the list given back. -/
def Complete (s : IfState) : Prop :=
  ∃ ifaddr rows, s.got = some ifaddr ∧ s.held = none ∧ Table ifaddr s.names rows ∧
    s.stdout = printed rows ∧ s.errors = []

/-- There is no list. -/
structure NoList (s : IfState) : Prop where
  got : s.got = none
  held : s.held = none
  names : s.names = []
  stdout : s.stdout = []
  errors : s.errors = ["getifaddrs".toList]

/-- An address has no name: the table ends with the line of its interface, and with the message.
The list has not been given back. -/
def NoName (gaiStrerror : ℤ → Text) (s : IfState) : Prop :=
  ∃ before ifa addr after rows names code, s.got = some (before ++ ifa :: after) ∧
    s.held = some (before ++ ifa :: after) ∧ ifa.ifaAddr = some addr ∧ addr.IsInet ∧
    Table before names rows ∧ s.names = names ++ [(addr, .error code)] ∧
    s.stdout = printed rows ++ unlines [header ifa.ifaName addr.family] ++
      noName gaiStrerror code ∧ s.errors = []

/-- How a run ends early. -/
def GivenUp (gaiStrerror : ℤ → Text) (status : ℤ) (s : IfState) : Prop :=
  status = 1 ∧ (NoList s ∨ NoName gaiStrerror s)

/-- In the loop: so many interfaces have been shown. -/
def Shown (ifaddr before : List Ifaddrs) (s : IfState) : Prop :=
  s.got = some ifaddr ∧ s.held = some ifaddr ∧ s.errors = [] ∧
    ∃ rows, Table before s.names rows ∧ s.stdout = printed rows

/-! ## Tables that grow -/

section Grow
variable {before : List Ifaddrs} {ifa : Ifaddrs} {addr : Sockaddr} {rows : List Row} {row : Row}
  {names : List (Sockaddr × Except ℤ Text)} {host : Text}

theorem visible_concat_none (before : List Ifaddrs) (h : ifa.ifaAddr = none) :
    visible (before ++ [ifa]) = visible before := by
  rw [visible, List.filterMap_append, List.filterMap_cons_none (by rw [h]; rfl), List.filterMap_nil,
    List.append_nil]
  rfl

theorem visible_concat (before : List Ifaddrs) (h : ifa.ifaAddr = some addr) :
    visible (before ++ [ifa]) = visible before ++ [(ifa, addr)] := by
  rw [visible, List.filterMap_append, List.filterMap_cons_some (b := (ifa, addr)) (by rw [h]; rfl)]
  rfl

theorem printed_concat : printed (rows ++ [row]) = printed rows ++ unlines row.lines := by
  rw [printed, List.flatMap_append, List.flatMap_singleton]
  rfl

theorem unlines_row (ifaName : Text) (family : ℕ) (detail : Detail) :
    unlines (Row.mk ifaName family detail).lines =
      unlines [header ifaName family] ++ unlines detail.lines :=
  unlines_append [header ifaName family] detail.lines

/-- An interface without an address has no row. -/
theorem Table.concat_none (h : Table before names rows) (hifa : ifa.ifaAddr = none) :
    Table (before ++ [ifa]) names rows := by
  have hvisible := visible_concat_none before hifa
  exact ⟨hvisible ▸ h.shows, hvisible ▸ h.addrs, h.hosts⟩

/-- An interface that nothing has to be asked for. -/
theorem Table.concat (h : Table before names rows) (hifa : ifa.ifaAddr = some addr)
    (hinet : ¬ addr.IsInet) (hrow : Shows ifa addr row) (hhost : row.host = none) :
    Table (before ++ [ifa]) names (rows ++ [row]) := by
  have hvisible := visible_concat before hifa
  refine ⟨?_, ?_, ?_⟩
  · rw [hvisible]
    exact List.rel_append h.shows (.cons hrow .nil)
  · rw [hvisible, List.map_append, List.filter_append, ← h.addrs]
    simp [hinet]
  · rw [List.filterMap_append, ← List.append_nil (names.map Prod.snd), h.hosts, List.map_append]
    simp [hhost]

/-- An interface with the name of its address. -/
theorem Table.concat_address (h : Table before names rows) (hifa : ifa.ifaAddr = some addr)
    (hinet : addr.IsInet) :
    Table (before ++ [ifa]) (names ++ [(addr, .ok host)])
      (rows ++ [⟨ifa.ifaName, addr.family, .address host⟩]) := by
  have hvisible := visible_concat before hifa
  refine ⟨?_, ?_, ?_⟩
  · rw [hvisible]
    exact List.rel_append h.shows (.cons ⟨rfl, rfl, hinet⟩ .nil)
  · rw [hvisible, List.map_append, List.map_append, List.filter_append, ← h.addrs]
    simp [hinet]
  · rw [List.filterMap_append, List.map_append, List.map_append, h.hosts]
    rfl

end Grow

/-! ## Every run -/

variable {gaiStrerror : ℤ → Text} {s : IfState}

theorem wp_printf {Q : Unit → IfState → Prop} {E : ℤ → IfState → Prop} {text : Text}
    (h : Q () { s with stdout := s.stdout ++ text }) : (printf text).wp ifs Q E s :=
  ⟨trivial, fun _ _ => h⟩

/-- The turn of an interface with an address, behind its line. -/
theorem wp_showDetail {ifaddr before after : List Ifaddrs} {ifa : Ifaddrs} {addr : Sockaddr}
    {rows : List Row} (hlist : ifaddr = before ++ ifa :: after) (hifa : ifa.ifaAddr = some addr)
    (hgot : s.got = some ifaddr) (hheld : s.held = some ifaddr) (herrors : s.errors = [])
    (htable : Table before s.names rows)
    (hstdout : s.stdout = printed rows ++ unlines [header ifa.ifaName addr.family]) :
    (showDetail gaiStrerror addr ifa.ifaData).wp ifs
      (fun _ => Shown ifaddr (before ++ [ifa])) (GivenUp gaiStrerror) s := by
  -- an interface that nothing has to be asked for
  have plain (detail : Detail) (hinet : ¬ addr.IsInet)
      (hrow : Shows ifa addr ⟨ifa.ifaName, addr.family, detail⟩)
      (hhost : (Row.mk ifa.ifaName addr.family detail).host = none) :
      Shown ifaddr (before ++ [ifa]) { s with stdout := s.stdout ++ unlines detail.lines } := by
    refine ⟨hgot, hheld, herrors, _, htable.concat hifa hinet hrow hhost, ?_⟩
    rw [printed_concat, unlines_row, ← List.append_assoc, ← hstdout]
  unfold showDetail
  split
  · next hinet =>
    have hmem : ifa ∈ ifaddr := hlist ▸ List.mem_append_right _ List.mem_cons_self
    refine ⟨⟨rfl, ifaddr, hheld, ifa, hmem, hifa⟩, fun r _ => ?_⟩
    cases r with
    | error code =>
      refine ⟨trivial, fun _ _ => ⟨rfl, .inr ⟨before, ifa, addr, after, rows, s.names, code, ?_⟩⟩⟩
      rw [← hlist]
      exact ⟨hgot, hheld, hifa, hinet, htable, rfl, congrArg (· ++ _) hstdout, herrors⟩
    | ok host =>
      refine wp_printf ⟨hgot, hheld, herrors, _, htable.concat_address hifa hinet, ?_⟩
      rw [printed_concat, unlines_row, ← List.append_assoc, ← hstdout]
      rfl
  · next hinet =>
    have quiet (h : addr.family = afPacket → ifa.ifaData = none) :
        Shown ifaddr (before ++ [ifa]) s := by
      have hshown := plain .nothing hinet ⟨rfl, rfl, hinet, h⟩ rfl
      rwa [show unlines Detail.nothing.lines = [] from rfl, List.append_nil] at hshown
    split
    · next stats hdata =>
      split
      · next hpacket => exact wp_printf (plain (.stats stats) hinet ⟨rfl, rfl, hpacket, hdata⟩ rfl)
      · next hpacket => exact quiet fun h => absurd h hpacket
    · next hdata => exact quiet fun _ => hdata

theorem wp_showInterface {ifaddr before after : List Ifaddrs} {ifa : Ifaddrs}
    (hlist : ifaddr = before ++ ifa :: after) (h : Shown ifaddr before s) :
    (showInterface gaiStrerror ifa).wp ifs (fun _ => Shown ifaddr (before ++ [ifa]))
      (GivenUp gaiStrerror) s := by
  obtain ⟨hgot, hheld, herrors, rows, htable, hstdout⟩ := h
  unfold showInterface
  split
  · next hifa => exact ⟨hgot, hheld, herrors, rows, htable.concat_none hifa, hstdout⟩
  · next addr hifa =>
    refine (Prog.wp_bind ifs).mpr (wp_printf ?_)
    exact wp_showDetail hlist hifa hgot hheld herrors htable (congrArg (· ++ _) hstdout)

theorem wp_mygetifaddrs : (mygetifaddrs gaiStrerror).wp ifs
    (fun status s => status = 0 ∧ Complete s) (GivenUp gaiStrerror) .init := by
  refine ⟨rfl, fun r _ => ?_⟩
  cases r with
  | error code => exact ⟨trivial, fun _ _ => ⟨rfl, .inl ⟨rfl, rfl, rfl, rfl, rfl⟩⟩⟩
  | ok ifaddr =>
    refine (Prog.wp_bind ifs).mpr (Prog.wp_mono ifs
      (Prog.wp_forM ifs (Shown ifaddr) (fun before ifa after s hlist hs => wp_showInterface hlist hs)
        ⟨rfl, rfl, rfl, [], ⟨.nil, rfl, rfl⟩, rfl⟩) ?_ fun _ _ h => h)
    rintro - s ⟨hgot, hheld, herrors, rows, htable, hstdout⟩
    exact ⟨hheld, fun _ _ => ⟨rfl, ifaddr, rows, hgot, rfl, htable, hstdout, herrors⟩⟩

/-- What is left behind a run. -/
abbrev behind (log : List (Entry ifInterface)) : IfState := ifs.after .init log

theorem granted_behind (log : List (Entry ifInterface)) :
    Run ifs.Granted .init log (behind log) :=
  Contract.run_granted_of_forall (fun _ _ _ => trivial) _ log

/-- **Every run of the program**, also one that has not ended: it asks only for the addresses
of a list that it holds, and gives back the list that it holds.  A run that returns has returned
0 and printed the table of all interfaces with an address, each address with its name, and the
list is given back.  A run that ends early has ended with 1, without a list, or at the first
address that has no name; then the table is there up to the interface of that address, and the
list has not been given back. -/
theorem mygetifaddrs_runs {log : List (Entry ifInterface)} {e : Ending ℤ ℤ}
    (hruns : (mygetifaddrs gaiStrerror).Runs log e) :
    Run ifs.Kept .init log (behind log) ∧
      e.Meets (fun status => status = 0 ∧ Complete (behind log))
        (GivenUp gaiStrerror · (behind log)) :=
  hruns.keeps wp_mygetifaddrs (granted_behind log)

/-- The hardware address of `lo`, a `struct sockaddr_ll`. -/
def loPacket : Sockaddr := ⟨17, [0, 0, 1, 0, 0, 0, 4, 3, 0, 6, 0, 0, 0, 0, 0, 0, 0, 0]⟩

/-- 127.0.0.1 as a `struct sockaddr_in`. -/
def loInet : Sockaddr := ⟨2, [0, 0, 127, 0, 0, 1, 0, 0, 0, 0, 0, 0, 0, 0]⟩

/-- 2001:db8::5 as a `struct sockaddr_in6`. -/
def ethInet6 : Sockaddr :=
  ⟨10, [0, 0, 0, 0, 0, 0, 0x20, 0x01, 0x0d, 0xb8, 0, 0, 0, 0, 0, 0, 0, 0, 0, 0, 0, 5, 0, 0, 0, 0]⟩

/-- A machine with three interfaces, one of which has no address. -/
def home : List Ifaddrs :=
  [⟨"lo".toList, some loPacket, some ⟨12, 12, 840, 840⟩⟩,
    ⟨"tun0".toList, none, none⟩,
    ⟨"lo".toList, some loInet, none⟩,
    ⟨"eth0".toList, some ethInet6, none⟩]

/-- On it every call succeeds that asks for one of its addresses; `EAI_FAMILY` is -6. -/
def atHome : (c : IfCall) → c.Reply
  | .getifaddrs => .ok home
  | .getnameinfo addr _ =>
    if addr = loInet then .ok "127.0.0.1".toList
    else if addr = ethInet6 then .ok "2001:db8::5".toList
    else .error (-6)
  | .freeifaddrs _ | .printf _ | .perror _ => ()

def homeRun : List (Entry ifInterface) := ((mygetifaddrs fun _ => []).under atHome).1

theorem runs_homeRun : (mygetifaddrs fun _ => []).Runs homeRun (.done 0) :=
  Prog.runs_under (I := ifInterface) atHome _

theorem mygetifaddrs_runs_home : Run ifs.Kept .init homeRun (behind homeRun) ∧
    (0 : ℤ) = 0 ∧ Complete (behind homeRun) :=
  mygetifaddrs_runs runs_homeRun

/-! ## What can be read off the output -/

/-- The rows of a table can be told from their lines, if the names and the addresses can be
printed. -/
theorem Table.plain {ifaddr : List Ifaddrs} {names : List (Sockaddr × Except ℤ Text)}
    {rows : List Row} (h : Table ifaddr names rows)
    (hname : ∀ ifa ∈ ifaddr, ∀ c ∈ ifa.ifaName, isSpace c = false)
    (hhost : ∀ host, Except.ok host ∈ names.map Prod.snd → '\n' ∉ host) :
    ∀ row ∈ rows, row.Plain := by
  intro row hrow
  constructor
  · obtain ⟨i, hi, rfl⟩ := List.mem_iff_getElem.mp hrow
    have hlen := h.shows.length_eq
    have hmem : (visible ifaddr)[i] ∈ visible ifaddr := List.getElem_mem (hlen ▸ hi)
    obtain ⟨ifa, hifa, hx⟩ := List.mem_filterMap.mp hmem
    obtain ⟨addr, -, hx⟩ := Option.map_eq_some_iff.mp hx
    have hshows : Shows (visible ifaddr)[i].1 (visible ifaddr)[i].2 rows[i] :=
      h.shows.get (hlen ▸ hi) hi
    rw [hshows.name, ← hx]
    exact hname ifa hifa
  · intro host hdetail
    refine hhost host ?_
    rw [h.hosts]
    exact List.mem_map_of_mem (List.mem_filterMap.mpr ⟨row, hrow, by rw [Row.host, hdetail]⟩)

/-- **The output tells the table**: what a run that returns has printed gives back the rows of
the interfaces, each with its name, its family, and its address or its counters.  The names of
interfaces have no white space in them, and the names of addresses no line feed. -/
theorem mygetifaddrs_readTable {log : List (Entry ifInterface)} {status : ℤ}
    {ifaddr : List Ifaddrs} (hruns : (mygetifaddrs gaiStrerror).Runs log (.done status))
    (hgot : (behind log).got = some ifaddr)
    (hname : ∀ ifa ∈ ifaddr, ∀ c ∈ ifa.ifaName, isSpace c = false)
    (hhost : ∀ host, Except.ok host ∈ (behind log).names.map Prod.snd → '\n' ∉ host) :
    Table ifaddr (behind log).names (readTable (behind log).stdout) := by
  obtain ⟨-, -, ifaddr', rows, hgot', -, htable, hstdout, -⟩ :=
    hruns.keeps wp_mygetifaddrs (granted_behind log)
  obtain rfl : ifaddr = ifaddr' := Option.some.inj (hgot.symm.trans hgot')
  rw [hstdout, readTable_printed (htable.plain hname hhost)]
  exact htable

theorem mygetifaddrs_readTable_home :
    Table home (behind homeRun).names (readTable (behind homeRun).stdout) := by
  refine mygetifaddrs_readTable runs_homeRun rfl (fun ifa hifa c hc => ?_) fun host hhost => ?_
  · have hnames : (home.all fun ifa => ifa.ifaName.all fun c => !isSpace c) = true := rfl
    have hname := List.all_eq_true.mp (List.all_eq_true.mp hnames ifa hifa) c hc
    simpa using hname
  · have hnames : (behind homeRun).names.map Prod.snd =
        [.ok "127.0.0.1".toList, .ok "2001:db8::5".toList] := rfl
    rw [hnames] at hhost
    have hhost : host = "127.0.0.1".toList ∨ host = "2001:db8::5".toList := by simpa using hhost
    rcases hhost with rfl | rfl <;> decide

/-! ## The first interface alone -/

/-- `mygetifaddrs()` of `mock/ifs/mylib_simple.c`.  It stops where the null pointer of an empty
list is read, and gives the list back only where it is built as a program. -/
def firstInterface (executable : Bool) : Prog ifInterface Unit ℤ :=
  .call .getifaddrs fun
    | .error _ => .done 1
    | .ok [] => .stop ()
    | .ok (ifa :: rest) =>
      .call (.printf ("mygetifaddrs: interface name = '".toList ++ ifa.ifaName ++ "'\n".toList))
        fun _ =>
          if executable then .call (.freeifaddrs (ifa :: rest)) fun _ => .done 0
          else .done 0

/-- There is no list, or the name of the first interface has been printed.  The list has been
given back by a program. -/
def FirstShown (executable : Bool) (status : ℤ) (s : IfState) : Prop :=
  (status = 1 ∧ s.held = none ∧ s.stdout = []) ∨
  (status = 0 ∧ ∃ ifa rest, s.got = some (ifa :: rest) ∧
    s.held = (if executable then none else some (ifa :: rest)) ∧
    s.stdout = "mygetifaddrs: interface name = '".toList ++ ifa.ifaName ++ "'\n".toList)

/-- It goes wrong if and only if the list is empty. -/
theorem firstInterface_runs {executable : Bool} {log : List (Entry ifInterface)}
    {e : Ending Unit ℤ} (hruns : (firstInterface executable).Runs log e) :
    Run ifs.Kept .init log (behind log) ∧
      e.Meets (FirstShown executable · (behind log)) fun _ => (behind log).got = some [] := by
  have hwp : (firstInterface executable).wp ifs (FirstShown executable)
      (fun _ s => s.got = some []) .init := by
    refine ⟨rfl, fun r _ => ?_⟩
    match r with
    | .error code => exact .inl ⟨rfl, rfl, rfl⟩
    | .ok [] => exact rfl
    | .ok (ifa :: rest) =>
      refine ⟨trivial, fun _ _ => ?_⟩
      cases executable with
      | true => exact ⟨rfl, fun _ _ => .inr ⟨rfl, ifa, rest, rfl, rfl, rfl⟩⟩
      | false => exact .inr ⟨rfl, ifa, rest, rfl, rfl, rfl⟩
  exact hruns.keeps hwp (granted_behind log)

end SimpleTests.Interfaces
