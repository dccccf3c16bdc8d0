import SimpleTests.PeerAddress

/-! # What the text of a peer says

`SysSocket::get_addr()` renders the four bytes behind the port and the port.  For a peer of
family `AF_INET` these are its address and its port, and `parsePeer` reads them back
(`parsePeer_peerText`).

For a peer of family `AF_INET6` the four bytes are its flow information, and its address does
not show.  So two peers have the same text exactly if they agree in the four bytes and the
port (`peerText_eq_iff`), and `peer_identified_iff` says for which pairs they are the same
peer then.
-/
namespace SimpleTests.Sockets
open DecimalText

/-! ## Dotted decimal -/

/-- The canonical text of an IPv4 address. -/
def dotted (addr : InAddr) : Text :=
  joinFields '.' [addr.b0.toNat, addr.b1.toNat, addr.b2.toNat, addr.b3.toNat]

/-- Reads `a.b.c.d`. -/
def parseAddr (s : Text) : Option InAddr :=
  match readFields '.' s with
  | some [a, b, c, d] =>
    if a < 256 ∧ b < 256 ∧ c < 256 ∧ d < 256 then some ⟨.ofNat a, .ofNat b, .ofNat c, .ofNat d⟩
    else none
  | _ => none

/-- Reads `a.b.c.d:port`. -/
def parsePeer (s : Text) : Option (InAddr × UInt16) :=
  match s.splitOn ':' with
  | [addr, port] =>
    (parseAddr addr).bind fun addr => (readDigits port).bind fun port =>
      if port < 65536 then some (addr, .ofNat port) else none
  | _ => none

theorem parseAddr_dotted (addr : InAddr) : parseAddr (dotted addr) = some addr := by
  have hread : readFields '.' (dotted addr) =
      some [addr.b0.toNat, addr.b1.toNat, addr.b2.toNat, addr.b3.toNat] :=
    readFields_joinFields (by decide) (by simp)
  have hbytes : addr.b0.toNat < 256 ∧ addr.b1.toNat < 256 ∧ addr.b2.toNat < 256 ∧
      addr.b3.toNat < 256 :=
    ⟨addr.b0.toNat_lt, addr.b1.toNat_lt, addr.b2.toNat_lt, addr.b3.toNat_lt⟩
  simp only [parseAddr, hread, if_pos hbytes, UInt8.ofNat_toNat]

theorem colon_notMem_dotted (addr : InAddr) : ':' ∉ dotted addr :=
  notMem_joinFields (by decide) (by decide) _

/-- **The text is read back.** -/
theorem parsePeer_append (addr : InAddr) (port : UInt16) :
    parsePeer (dotted addr ++ [':'] ++ Nat.toDigits 10 port.toNat) = some (addr, port) := by
  have hsplit : (dotted addr ++ [':'] ++ Nat.toDigits 10 port.toNat).splitOn ':' =
      [dotted addr, Nat.toDigits 10 port.toNat] := by
    have hdigits : ':' ∉ Nat.toDigits 10 port.toNat := notMem_toDigits (by decide) _
    rw [List.append_assoc, List.singleton_append,
      List.splitOn_append_cons_self_of_not_mem (colon_notMem_dotted addr),
      List.splitOn_eq_singleton hdigits]
  simp only [parsePeer, hsplit, parseAddr_dotted, readDigits_toDigits, Option.bind_some,
    if_pos port.toNat_lt, UInt16.ofNat_toNat]

/-! ## The text of a peer -/

/-- What a call of `get_addr()` depends on besides the peer: the descriptor of the
connection, what was in the storage before, the listening socket, and the process. -/
structure Occasion where
  sd : ℕ
  storage : SockaddrStorage
  listenSock : ℕ
  process : Process

/-- The descriptors of the unit test, and a storage of zeros. -/
def Occasion.unitTest : Occasion := ⟨4, ⟨fun _ => 0⟩, 3, ⟨.other 0, []⟩⟩

/-- What `get_addr()` returns when `accept()` has stored the address `x`. -/
def peerText (inetNtop : InAddr → Option Text) (x : Sockaddr) (o : Occasion) : Text :=
  (SysSocket.getAddr ⟨.ok (o.sd, o.storage.store x), inetNtop⟩ o.listenSock o.process).1

/-- If `get_addr()` returns the same text for both peers, other than the empty one, they have
the same family, address and port. -/
def Identifies (inetNtop : InAddr → Option Text) (x y : Sockaddr) : Prop :=
  ∀ o o', peerText inetNtop x o = peerText inetNtop y o' → peerText inetNtop x o ≠ [] →
    x.endpoint = y.endpoint

/-- Two peers that cannot be taken for one another: both are of family `AF_INET`, or their
ports differ, or the four bytes behind the ports, or they are the same. -/
def Distinguished (x y : Sockaddr) : Prop :=
  (x.IsInet ∧ y.IsInet) ∨ x.port ≠ y.port ∨ x.word ≠ y.word ∨ x.endpoint = y.endpoint

instance (x y : Sockaddr) : Decidable (Distinguished x y) :=
  inferInstanceAs (Decidable (_ ∨ _ ∨ _ ∨ _))

variable {inetNtop : InAddr → Option Text} {x y : Sockaddr}

/-- The four bytes, as an IPv4 address. -/
def Word.inAddr (w : Word) : InAddr := ⟨w.b0, w.b1, w.b2, w.b3⟩

theorem Word.inAddr_injective : Function.Injective Word.inAddr := by
  rintro ⟨a, b, c, d⟩ ⟨a', b', c', d'⟩ h
  obtain ⟨rfl, rfl, rfl, rfl⟩ := InAddr.mk.inj h
  rfl

theorem ntohs_injective : Function.Injective ntohs := by
  rintro ⟨hi, lo⟩ ⟨hi', lo'⟩ h
  have hnat := congrArg UInt16.toNat h
  have hlt := hi.toNat_lt
  have hlt' := hi'.toNat_lt
  have hlo := lo.toNat_lt
  have hlo' := lo'.toNat_lt
  simp only [ntohs, UInt16.toNat_ofNat'] at hnat
  have hhi : hi = hi' := UInt8.toNat_inj.mp (by omega)
  have hlo : lo = lo' := UInt8.toNat_inj.mp (by omega)
  rw [hhi, hlo]

theorem peerText_eq (hntop : ∀ addr, inetNtop addr = some (dotted addr)) (x : Sockaddr)
    (o : Occasion) :
    peerText inetNtop x o =
      dotted x.word.inAddr ++ [':'] ++ Nat.toDigits 10 (ntohs x.port).toNat := by
  simp only [peerText, SysSocket.getAddr, SockaddrStorage.sinAddr_store,
    SockaddrStorage.sinPort_store, hntop]
  rfl

/-- **What can be read from the text**: the four bytes and the port. -/
theorem parsePeer_peerText (hntop : ∀ addr, inetNtop addr = some (dotted addr)) (x : Sockaddr)
    (o : Occasion) : parsePeer (peerText inetNtop x o) = some (x.word.inAddr, ntohs x.port) := by
  rw [peerText_eq hntop]
  exact parsePeer_append _ _

theorem peerText_eq_iff (hntop : ∀ addr, inetNtop addr = some (dotted addr)) (o o' : Occasion) :
    peerText inetNtop x o = peerText inetNtop y o' ↔ x.port = y.port ∧ x.word = y.word := by
  constructor
  · intro heq
    have hparse := congrArg parsePeer heq
    rw [parsePeer_peerText hntop, parsePeer_peerText hntop] at hparse
    obtain ⟨hword, hport⟩ := Prod.mk.inj (Option.some.inj hparse)
    exact ⟨ntohs_injective hport, Word.inAddr_injective hword⟩
  · rintro ⟨hport, hword⟩
    rw [peerText_eq hntop, peerText_eq hntop, hport, hword]

theorem peerText_ne_nil (hntop : ∀ addr, inetNtop addr = some (dotted addr)) (x : Sockaddr)
    (o : Occasion) : peerText inetNtop x o ≠ [] := by
  rw [peerText_eq hntop]
  simp

/-- The four bytes and the port are all there is to an IPv4 peer. -/
theorem endpoint_eq_of_isInet (hx : x.IsInet) (hy : y.IsInet) (hport : x.port = y.port)
    (hword : x.word = y.word) : x.endpoint = y.endpoint := by
  cases x with
  | inet a =>
    cases y with
    | inet b =>
      have hport : a.sinPort = b.sinPort := hport
      have haddr : a.sinAddr = b.sinAddr := congrArg Word.inAddr hword
      show Endpoint.inet a.sinAddr a.sinPort = Endpoint.inet b.sinAddr b.sinPort
      rw [hport, haddr]
    | inet6 b => exact hy.elim
  | inet6 a => exact hx.elim

/-- **Which peers `get_addr()` tells apart**, wherever their addresses are stored. -/
theorem identifies_iff_distinguished (hntop : ∀ addr, inetNtop addr = some (dotted addr)) :
    Identifies inetNtop x y ↔ Distinguished x y := by
  constructor
  · intro h
    by_cases hport : x.port = y.port
    · by_cases hword : x.word = y.word
      · -- the texts are the same
        have heq := (peerText_eq_iff hntop .unitTest .unitTest).mpr ⟨hport, hword⟩
        exact Or.inr (Or.inr (Or.inr (h _ _ heq (peerText_ne_nil hntop x _))))
      · exact Or.inr (Or.inr (Or.inl hword))
    · exact Or.inr (Or.inl hport)
  · rintro h o o' heq -
    obtain ⟨hport, hword⟩ := (peerText_eq_iff hntop o o').mp heq
    rcases h with ⟨hx, hy⟩ | hne | hne | hsame
    · exact endpoint_eq_of_isInet hx hy hport hword
    · exact absurd hport hne
    · exact absurd hword hne
    · exact hsame

/-- **What `get_addr()` says about a peer.**  For every two peers the text identifies them
exactly if both are of family `AF_INET`, or their ports differ, or the four bytes behind the
ports, or they are the same peer.  And for every peer of family `AF_INET` the text is read
back as its address and its port. -/
theorem peer_identified_iff (hntop : ∀ addr, inetNtop addr = some (dotted addr)) (x y : Sockaddr) :
    (Identifies inetNtop x y ↔ Distinguished x y) ∧
    ∀ (addr : SockaddrIn) (o : Occasion),
      parsePeer (peerText inetNtop (.inet addr) o) = some (addr.sinAddr, ntohs addr.sinPort) :=
  ⟨identifies_iff_distinguished hntop, fun addr o => parsePeer_peerText hntop (.inet addr) o⟩

/-- The peer of the unit test, 192.168.1.2:50000. -/
def testPeer : SockaddrIn := ⟨htons 50000, ⟨192, 168, 1, 2⟩⟩

theorem peer_identified_test :
    Identifies (fun addr => some (dotted addr)) (.inet testPeer)
      (.inet { testPeer with sinPort := htons 50001 }) ∧
    parsePeer (peerText (fun addr => some (dotted addr)) (.inet testPeer) .unitTest) =
      some (⟨192, 168, 1, 2⟩, 50000) := by
  have h := peer_identified_iff (fun _ => rfl) (.inet testPeer)
    (.inet { testPeer with sinPort := htons 50001 })
  exact ⟨h.1.mpr (by decide), h.2 testPeer .unitTest⟩

/-- The peer `[::n]:50000`. -/
def local6 (n : UInt8) : SockaddrIn6 where
  sin6Port := htons 50000
  sin6Flowinfo := ⟨0, 0, 0, 0⟩
  sin6Addr := ⟨#v[0, 0, 0, 0, 0, 0, 0, 0, 0, 0, 0, 0, 0, 0, 0, n]⟩
  sin6ScopeId := ⟨0, 0, 0, 0⟩

/-- Two peers of family `AF_INET6` have the same text. -/
theorem not_identified_local6 :
    peerText (fun addr => some (dotted addr)) (.inet6 (local6 1)) .unitTest =
      ['0', '.', '0', '.', '0', '.', '0', ':', '5', '0', '0', '0', '0'] ∧
    peerText (fun addr => some (dotted addr)) (.inet6 (local6 2)) .unitTest =
      ['0', '.', '0', '.', '0', '.', '0', ':', '5', '0', '0', '0', '0'] ∧
    ¬ Identifies (fun addr => some (dotted addr)) (.inet6 (local6 1)) (.inet6 (local6 2)) := by
  have h1 : peerText (fun addr => some (dotted addr)) (.inet6 (local6 1)) .unitTest =
      ['0', '.', '0', '.', '0', '.', '0', ':', '5', '0', '0', '0', '0'] := by decide
  have h2 : peerText (fun addr => some (dotted addr)) (.inet6 (local6 2)) .unitTest =
      ['0', '.', '0', '.', '0', '.', '0', ':', '5', '0', '0', '0', '0'] := by decide
  refine ⟨h1, h2, fun h => ?_⟩
  have hsame := h .unitTest .unitTest (h1.trans h2.symm) (by rw [h1]; simp)
  exact absurd hsame (by decide)

end SimpleTests.Sockets
