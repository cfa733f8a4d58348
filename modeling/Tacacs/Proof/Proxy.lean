import Tacacs.Proof.Framing
import Tacacs.Proxy

/-!
# The header in front of a connection

Both readers take the header off the stream before they look into it, so where the stream is left
does not depend on what the header says: after the first newline (`readHeaderV1_line`), or after
the block of the advertised length (`readHeaderV2_header`).

The first newline may be anywhere. The bound on a line is checked on the line that was read, and
a stream without a newline is read to its end.

A header is followed by packets, and a stream without one begins with a packet: its first byte is a
version, and no version is the first byte of a header (`proxied_stream`).
-/

set_option autoImplicit false

namespace Tacacs
namespace Proof
namespace Proxy

open GoSem GoText GoNet
open Tacacs.Crypto (Md5)
open Tacacs.Transport (Read readFull Conn Mode Pkt)
open Tacacs.Proof.Transport (readFull_append writeAll reader writeAll_eq readAll_written arriving
  frame Sendable)
open Tacacs.Proxy

variable (parseIP : GoString → Option Bytes)

/-! ## Lines -/

theorem idxOf?_append_cons {delim : UInt8} {l : Bytes} (h : delim ∉ l) (rest : Bytes) :
    (l ++ delim :: rest).idxOf? delim = some l.length := by
  induction l with
  | nil => simp [List.idxOf?_cons]
  | cons b l ih =>
    have hb : ¬ b = delim := fun hb => h (hb ▸ List.mem_cons_self ..)
    have hl : delim ∉ l := fun hl => h (List.mem_cons_of_mem b hl)
    simp [List.idxOf?_cons, hb, ih hl]

theorem readString_line {l : Bytes} (h : 0x0a ∉ l) (rest : Bytes) :
    readString 0x0a (l ++ 0x0a :: rest) = (.ok (l ++ [0x0a]), rest) := by
  have hsplit : l ++ 0x0a :: rest = (l ++ [0x0a]) ++ rest := by simp
  have hlen : l.length + 1 = (l ++ [0x0a]).length := by simp
  rw [readString, idxOf?_append_cons h]
  dsimp only
  rw [hlen, hsplit, List.take_left, List.drop_left]

theorem readString_eof {r : Bytes} (h : 0x0a ∉ r) : readString 0x0a r = (fail .eof, []) := by
  rw [readString, List.idxOf?_eq_none_iff.mpr h]

theorem readHeaderV1_line {l : Bytes} (h : 0x0a ∉ l) (rest : Bytes) :
    readHeaderV1 parseIP (l ++ 0x0a :: rest) =
      (if l.length + 1 > maxHeaderLen then fail errMalformedProxy
        else parseLine parseIP (trimRight (l ++ [0x0a])), rest) := by
  have hlen : (l ++ [(0x0a : UInt8)]).length = l.length + 1 := by simp
  rw [readHeaderV1, readString_line h]
  dsimp only
  rw [hlen]
  split <;> rfl

theorem readHeaderV1_eof {r : Bytes} (h : 0x0a ∉ r) :
    readHeaderV1 parseIP r = (fail .eof, []) := by
  rw [readHeaderV1, readString_eof h]
  rfl

theorem readHeader_eq_readHeaderV1 {r : Bytes} (h : r.head? = some 0x50) :
    readHeader parseIP r = readHeaderV1 parseIP r := by
  cases r with
  | nil => cases h
  | cons b r =>
    obtain rfl : b = 0x50 := Option.some.inj h
    rfl

/-- A stream that begins as neither header does is left as it is. -/
theorem readHeader_none {b : UInt8} (hP : b ≠ 0x50) (hCR : b ≠ 0x0d) (rest : Bytes) :
    readHeader parseIP (b :: rest) = (fail errNoProxyHeader, b :: rest) := by
  rw [readHeader, if_neg hP, if_neg hCR]

/-! ## Blocks -/

/-- What a block of addresses of `n` bytes begins with. -/
def endpoints (src dst : Bytes) (sport dport : UInt16) : Bytes :=
  src ++ (dst ++ (be16Bytes sport ++ be16Bytes dport))

theorem exists_endpoints {block : Bytes} {n : Nat} (h : 2 * n + 4 ≤ block.length) :
    ∃ src dst sport dport tlvs, block = endpoints src dst sport dport ++ tlvs ∧
      src.length = n ∧ dst.length = n := by
  obtain ⟨interpreted, tlvs, rfl, hlen⟩ := exists_split block (2 * n + 4) h
  obtain ⟨src, rest, rfl, hsrc, hrest⟩ := exists_split_add (m := n) (n := n + 4)
    (hlen.trans (by omega))
  obtain ⟨dst, ports, rfl, hdst, hports⟩ := exists_split_add (m := n) (n := 4) hrest
  obtain ⟨sport, dport, rfl, hsport, hdport⟩ := exists_split_add (m := 2) (n := 2) hports
  obtain ⟨sport, rfl⟩ := exists_be16Bytes hsport
  obtain ⟨dport, rfl⟩ := exists_be16Bytes hdport
  exact ⟨src, dst, sport, dport, tlvs, rfl, hsrc, hdst⟩

/-- The source address and the source port are where the two families have them. -/
theorem slices_endpoints {src dst : Bytes} {n : Nat} (hsrc : src.length = n) (hdst : dst.length = n)
    (sport dport : UInt16) (tlvs : Bytes) {lo hi : Nat} (hlo : lo = 2 * n) (hhi : hi = lo + 2) :
    (do let ip ← slice (endpoints src dst sport dport ++ tlvs) 0 n
        let port ← uint16At (← slice (endpoints src dst sport dport ++ tlvs) lo hi)
        return { ip, port := port.toNat } : Go GoError TCPAddr) =
      .ok { ip := src, port := sport.toNat } := by
  have hip : (slice (endpoints src dst sport dport ++ tlvs) 0 n : Go GoError Bytes) = .ok src :=
    slice_eq [] (dst ++ (be16Bytes sport ++ be16Bytes dport) ++ tlvs) (by simp [endpoints]) rfl
      (by simp [hsrc])
  have hport : (slice (endpoints src dst sport dport ++ tlvs) lo hi : Go GoError Bytes) =
      .ok (be16Bytes sport) :=
    slice_eq (src ++ dst) (be16Bytes dport ++ tlvs) (by simp [endpoints])
      (by rw [List.length_append]; omega) (by rw [hhi]; rfl)
  rw [hip, ok_bind, hport, ok_bind, uint16At_be16Bytes, ok_bind]
  rfl

theorem parseBlock_inet {src dst : Bytes} (hsrc : src.length = 4) (hdst : dst.length = 4)
    (sport dport : UInt16) (tlvs : Bytes) :
    parseBlock v2CmdProxy v2FamInet (endpoints src dst sport dport ++ tlvs) =
      .ok { ip := src, port := sport.toNat } := by
  have hlen : ¬ (endpoints src dst sport dport ++ tlvs).length < v2AddrLenInet := by
    simp [endpoints, be16Bytes, hsrc, hdst, v2AddrLenInet]
    omega
  rw [parseBlock, if_neg (by decide), if_pos rfl, if_neg hlen]
  exact slices_endpoints hsrc hdst sport dport tlvs rfl rfl

theorem parseBlock_inet6 {src dst : Bytes} (hsrc : src.length = 16) (hdst : dst.length = 16)
    (sport dport : UInt16) (tlvs : Bytes) :
    parseBlock v2CmdProxy v2FamInet6 (endpoints src dst sport dport ++ tlvs) =
      .ok { ip := src, port := sport.toNat } := by
  have hlen : ¬ (endpoints src dst sport dport ++ tlvs).length < v2AddrLenInet6 := by
    simp [endpoints, be16Bytes, hsrc, hdst, v2AddrLenInet6]
    omega
  rw [parseBlock, if_neg (by decide), if_neg (by decide), if_pos rfl, if_neg hlen]
  exact slices_endpoints hsrc hdst sport dport tlvs rfl rfl

theorem parseBlock_other {family : UInt8} (h4 : family ≠ v2FamInet) (h6 : family ≠ v2FamInet6)
    (cmd : UInt8) (block : Bytes) : parseBlock cmd family block = fail errNoProxyHeader := by
  rw [parseBlock, if_neg h4, if_neg h6]
  split <;> rfl

theorem parseBlock_local (family : UInt8) (block : Bytes) :
    parseBlock v2CmdLocal family block = fail errNoProxyHeader := by
  rw [parseBlock, if_pos rfl]

/-- The fixed part of a version 2 header. -/
def fixed (verCmd famProto : UInt8) (addrLen : UInt16) : Bytes :=
  v2Sig ++ [verCmd, famProto] ++ be16Bytes addrLen

theorem parseFixed_fixed {verCmd : UInt8} (hver : verCmd >>> 4 = v2Version)
    (hcmd : verCmd &&& 0x0f = v2CmdLocal ∨ verCmd &&& 0x0f = v2CmdProxy) (famProto : UInt8)
    (addrLen : UInt16) :
    parseFixed (fixed verCmd famProto addrLen) =
      .ok (verCmd &&& 0x0f, famProto >>> 4, addrLen) := by
  have hsig : checkSig (fixed verCmd famProto addrLen) 0 v2Sig = .ok () := rfl
  have h12 : (byteAt (fixed verCmd famProto addrLen) 12 : Go GoError UInt8) = .ok verCmd := rfl
  have h13 : (byteAt (fixed verCmd famProto addrLen) 13 : Go GoError UInt8) = .ok famProto := rfl
  have hlen : (slice (fixed verCmd famProto addrLen) 14 16 : Go GoError Bytes) =
      .ok (be16Bytes addrLen) := rfl
  rw [parseFixed, hsig, ok_bind, h12, ok_bind, if_neg (not_not_intro hver)]
  dsimp only
  rw [if_neg (by tauto), h13, ok_bind, hlen, ok_bind, uint16At_be16Bytes, ok_bind]
  rfl

theorem readHeaderV2_header {verCmd : UInt8} (hver : verCmd >>> 4 = v2Version)
    (hcmd : verCmd &&& 0x0f = v2CmdLocal ∨ verCmd &&& 0x0f = v2CmdProxy) (famProto : UInt8)
    {addrLen : UInt16} {block : Bytes} (hlen : addrLen.toNat = block.length) (payload : Bytes) :
    readHeaderV2 (fixed verCmd famProto addrLen ++ (block ++ payload)) =
      (parseBlock (verCmd &&& 0x0f) (famProto >>> 4) block, payload) := by
  have hfixed : readFull v2HeaderLen (fixed verCmd famProto addrLen ++ (block ++ payload)) =
      (.ok (fixed verCmd famProto addrLen), block ++ payload) :=
    readFull_append (s := fixed verCmd famProto addrLen) (block ++ payload)
  rw [readHeaderV2, hfixed]
  dsimp only
  rw [parseFixed_fixed hver hcmd]
  dsimp only
  rw [hlen, readFull_append]

/-- The stream is left at the payload, whatever comes of the header. -/
theorem readHeader_payload :
    (∀ b rest, b ≠ 0x50 → b ≠ 0x0d →
      readHeader parseIP (b :: rest) = (fail errNoProxyHeader, b :: rest)) ∧
    (∀ line payload res rest, line.head? = some 0x50 → line.length ≤ maxHeaderLen →
      (∃ l, line = l ++ [0x0a] ∧ 0x0a ∉ l) →
      readHeader parseIP (line ++ payload) = (res, rest) →
      (∃ a, res = .ok a) ∨ res = fail errNoProxyHeader → rest = payload) ∧
    (∀ (verCmd famProto : UInt8) (addrLen : UInt16) (block payload : Bytes),
      verCmd >>> 4 = v2Version → addrLen.toNat = block.length →
      let r := fixed verCmd famProto addrLen ++ (block ++ payload)
      (verCmd &&& 0x0f = v2CmdLocal →
        readHeader parseIP r = (fail errNoProxyHeader, payload)) ∧
      (verCmd &&& 0x0f = v2CmdProxy →
        (famProto >>> 4 = v2FamInet → v2AddrLenInet ≤ block.length →
          ∃ src dst sport dport tlvs, block = endpoints src dst sport dport ++ tlvs ∧
            src.length = 4 ∧ dst.length = 4 ∧
            readHeader parseIP r = (.ok { ip := src, port := sport.toNat }, payload)) ∧
        (famProto >>> 4 = v2FamInet6 → v2AddrLenInet6 ≤ block.length →
          ∃ src dst sport dport tlvs, block = endpoints src dst sport dport ++ tlvs ∧
            src.length = 16 ∧ dst.length = 16 ∧
            readHeader parseIP r = (.ok { ip := src, port := sport.toNat }, payload)) ∧
        (famProto >>> 4 ≠ v2FamInet → famProto >>> 4 ≠ v2FamInet6 →
          readHeader parseIP r = (fail errNoProxyHeader, payload)))) := by
  refine ⟨?_, ?_, ?_⟩
  · intro b rest hP hCR
    exact readHeader_none parseIP hP hCR rest
  · rintro line payload res rest hP - ⟨l, rfl, hl⟩ hread -
    have hP' : (l ++ [0x0a] ++ payload).head? = some 0x50 := by
      rw [List.head?_append, hP]
      rfl
    have hsplit : l ++ [0x0a] ++ payload = l ++ 0x0a :: payload := by simp
    rw [readHeader_eq_readHeaderV1 parseIP hP', hsplit, readHeaderV1_line parseIP hl] at hread
    exact (Prod.mk.inj hread).2.symm
  · intro verCmd famProto addrLen block payload hver hlen r
    have hread : ∀ cmd : UInt8, verCmd &&& 0x0f = cmd → cmd = v2CmdLocal ∨ cmd = v2CmdProxy →
        readHeader parseIP r = (parseBlock cmd (famProto >>> 4) block, payload) := by
      rintro cmd rfl hcmd
      exact readHeaderV2_header hver hcmd famProto hlen payload
    refine ⟨fun hcmd => ?_, fun hcmd => ⟨fun hfam hblock => ?_, fun hfam hblock => ?_, ?_⟩⟩
    · rw [hread _ hcmd (Or.inl rfl), parseBlock_local]
    · obtain ⟨src, dst, sport, dport, tlvs, rfl, hsrc, hdst⟩ := exists_endpoints (n := 4) hblock
      refine ⟨src, dst, sport, dport, tlvs, rfl, hsrc, hdst, ?_⟩
      rw [hread _ hcmd (Or.inr rfl), hfam, parseBlock_inet hsrc hdst]
    · obtain ⟨src, dst, sport, dport, tlvs, rfl, hsrc, hdst⟩ := exists_endpoints (n := 16) hblock
      refine ⟨src, dst, sport, dport, tlvs, rfl, hsrc, hdst, ?_⟩
      rw [hread _ hcmd (Or.inr rfl), hfam, parseBlock_inet6 hsrc hdst]
    · intro h4 h6
      rw [hread _ hcmd (Or.inr rfl), parseBlock_other h4 h6]

/-- A packet without a header, a line, and blocks of version 2: an IPv4 address with a byte behind
    the ports, an IPv6 address, a local connection and a family that is neither. -/
theorem readHeader_payload_each :
    let parse : GoString → Option Bytes := fun _ => some [192, 0, 2, 1]
    let v6 : Bytes := List.replicate 15 0 ++ [1]
    readHeader parse [0xc0, 0x01] = (fail errNoProxyHeader, [0xc0, 0x01]) ∧
      (readHeader parse (lit "PROXY TCP4 192.0.2.1 192.0.2.9 7 49\n" ++ lit "x")).2 = lit "x" ∧
      readHeader parse (fixed 0x20 0x11 1 ++ ([0] ++ lit "x")) =
        (fail errNoProxyHeader, lit "x") ∧
      (∃ a, readHeader parse
        (fixed 0x21 0x11 13 ++ (endpoints [192, 0, 2, 1] [192, 0, 2, 9] 7 49 ++ [0] ++ lit "x")) =
          (.ok a, lit "x")) ∧
      (∃ a, readHeader parse (fixed 0x21 0x21 36 ++ (endpoints v6 v6 7 49 ++ lit "x")) =
        (.ok a, lit "x")) ∧
      readHeader parse (fixed 0x21 0x31 1 ++ ([0] ++ lit "x")) =
        (fail errNoProxyHeader, lit "x") := by
  intro parse v6
  obtain ⟨hnone, hline, hblock⟩ := readHeader_payload parse
  refine ⟨hnone 0xc0 [0x01] (by decide) (by decide), ?_, ?_, ?_, ?_, ?_⟩
  · exact hline (lit "PROXY TCP4 192.0.2.1 192.0.2.9 7 49\n") (lit "x") _ _ (by decide) (by decide)
      ⟨lit "PROXY TCP4 192.0.2.1 192.0.2.9 7 49", by decide, by decide⟩ rfl
      (Or.inl ⟨⟨[192, 0, 2, 1], 7⟩, by decide +kernel⟩)
  · exact (hblock 0x20 0x11 1 [0] (lit "x") (by decide) (by decide)).1 (by decide)
  · obtain ⟨src, dst, sport, dport, tlvs, -, -, -, hread⟩ :=
      ((hblock 0x21 0x11 13 (endpoints [192, 0, 2, 1] [192, 0, 2, 9] 7 49 ++ [0]) (lit "x")
        (by decide) (by decide)).2 (by decide)).1 (by decide) (by decide)
    exact ⟨_, hread⟩
  · obtain ⟨src, dst, sport, dport, tlvs, -, -, -, hread⟩ :=
      ((hblock 0x21 0x21 36 (endpoints v6 v6 7 49) (lit "x")
        (by decide) (by decide)).2 (by decide)).2.1 (by decide) (by decide)
    exact ⟨_, hread⟩
  · exact ((hblock 0x21 0x31 1 [0] (lit "x") (by decide) (by decide)).2 (by decide)).2.2
      (by decide) (by decide)

/-! ## How much is read -/

/-- A stream that begins as a line has a first newline, or none. -/
theorem line_cases (r : Bytes) :
    (∃ l rest, r = l ++ 0x0a :: rest ∧ (0x0a : UInt8) ∉ l) ∨ (0x0a : UInt8) ∉ r := by
  by_cases h : (0x0a : UInt8) ∈ r
  · obtain ⟨l, rest, rfl, hl⟩ := List.eq_append_cons_of_mem h
    exact Or.inl ⟨l, rest, rfl, hl⟩
  · exact Or.inr h

theorem mem_take_iff {l : Bytes} (hl : (0x0a : UInt8) ∉ l) (rest : Bytes) (n : Nat) :
    0x0a ∈ (l ++ 0x0a :: rest).take n ↔ l.length < n := by
  rw [List.take_append]
  constructor
  · intro h
    rcases List.mem_append.mp h with h | h
    · exact absurd (List.mem_of_mem_take h) hl
    · by_contra hn
      rw [Nat.sub_eq_zero_of_le (Nat.not_lt.mp hn)] at h
      simp at h
  · intro hn
    obtain ⟨k, hk⟩ := Nat.exists_eq_add_of_lt hn
    have hsub : n - l.length = k + 1 := by omega
    rw [hsub, List.take_succ_cons]
    exact List.mem_append_right _ (List.mem_cons_self ..)

/-- At most the 108 bytes of a header are taken from a stream that begins with `P`, and a longer
    line is rejected as malformed, exactly if the line ends within them or the stream does. -/
theorem readHeader_bounded_iff (tail : Bytes) :
    let r := 0x50 :: tail
    r.length ≤ maxHeaderLen + (readHeader parseIP r).2.length ∧
        (0x0a ∉ r.take maxHeaderLen → maxHeaderLen < r.length →
          (readHeader parseIP r).1 = fail errMalformedProxy) ↔
      0x0a ∈ r.take maxHeaderLen ∨ r.length ≤ maxHeaderLen := by
  intro r
  rw [readHeader_eq_readHeaderV1 parseIP (r := r) rfl]
  rcases line_cases r with ⟨l, rest, hr, hl⟩ | hr
  · rw [hr, readHeaderV1_line parseIP hl, mem_take_iff hl, List.length_append, List.length_cons]
    constructor
    · rintro ⟨hle, -⟩
      dsimp only at hle
      exact Or.inl (by omega)
    · intro h
      have hlt : l.length < maxHeaderLen := by
        rcases h with h | h <;> omega
      refine ⟨?_, fun hnot => absurd hlt hnot⟩
      dsimp only
      omega
  · rw [readHeaderV1_eof parseIP hr]
    have htake : 0x0a ∉ r.take maxHeaderLen := fun h => hr (List.mem_of_mem_take h)
    constructor
    · rintro ⟨hle, -⟩
      exact Or.inr hle
    · rintro (h | h)
      · exact absurd h htake
      · exact ⟨h, fun _ hlt => absurd h (Nat.not_le.mpr hlt)⟩

/-- 109 bytes without a newline are all taken, and the answer is the end of the stream. -/
theorem readHeader_unbounded :
    let r := 0x50 :: List.replicate 108 0x20
    readHeader (fun _ => none) r = (fail .eof, []) ∧ maxHeaderLen < r.length := by
  decide

/-! ## Reading what was written -/

/-- An address that `WriteHeader` can be asked to write. -/
structure Valid (a : TCPAddr) : Prop where
  ip : a.ip.length = 4 ∨ a.ip.length = 16
  port : 0 ≤ a.port ∧ a.port ≤ 65535

theorem Valid.decimalInt_port {a : TCPAddr} (h : Valid a) :
    decimalInt a.port = decimal a.port.toNat := by
  rw [decimalInt, if_neg (Int.not_lt.mpr h.port.1)]
  exact congrArg decimal (by have := h.port.1; omega)

theorem Valid.parsePort_port {a : TCPAddr} (h : Valid a) :
    parsePort (decimal a.port.toNat) = some a.port := by
  obtain ⟨hlow, hhigh⟩ := h.port
  rw [parsePort, atoi_decimal (by omega), Option.bind_some, Int.toNat_of_nonneg hlow,
    if_neg (by omega)]

def proto (client : TCPAddr) : GoString :=
  if to4 client.ip = none then lit "TCP6" else lit "TCP4"

def words (client proxy : TCPAddr) : List GoString :=
  [lit "PROXY", proto client, ipString client.ip, ipString proxy.ip, decimal client.port.toNat,
    decimal proxy.port.toNat]

def headerLine (client proxy : TCPAddr) : Bytes := [0x20].intercalate (words client proxy)

theorem writeHeader_tcp {client proxy : TCPAddr} (hc : Valid client) (hp : Valid proxy) :
    writeHeader (.tcp client) (.tcp proxy) = .ok (headerLine client proxy ++ [0x0d, 0x0a]) := by
  simp only [writeHeader, hc.decimalInt_port, hp.decimalInt_port, headerLine, words, proto,
    List.intercalate_cons_cons, List.intercalate_singleton]
  simp [lit]

/-- Neither the separator nor an end of line stands in a word. -/
theorem not_mem_words {client proxy : TCPAddr} (hc : Valid client) (hp : Valid proxy) {b : UInt8}
    (hb : b = 0x20 ∨ b = 0x0a ∨ b = 0x0d) {w : GoString} (hw : w ∈ words client proxy) :
    b ∉ w := by
  have hip : isIPChar b = false := by rcases hb with rfl | rfl | rfl <;> decide
  have hdigit : isDigit b = false := by rcases hb with rfl | rfl | rfl <;> decide
  have hlit : b ∉ lit "PROXY" ∧ b ∉ lit "TCP4" ∧ b ∉ lit "TCP6" := by
    rcases hb with rfl | rfl | rfl <;> decide
  simp only [words, List.mem_cons, List.not_mem_nil, or_false] at hw
  rcases hw with rfl | rfl | rfl | rfl | rfl | rfl
  · exact hlit.1
  · unfold proto
    split
    · exact hlit.2.2
    · exact hlit.2.1
  · exact not_mem_ipString hip hc.ip
  · exact not_mem_ipString hip hp.ip
  · exact not_mem_decimal hdigit _
  · exact not_mem_decimal hdigit _

theorem not_mem_headerLine {client proxy : TCPAddr} (hc : Valid client) (hp : Valid proxy)
    {b : UInt8} (hb : b = 0x0a ∨ b = 0x0d) : b ∉ headerLine client proxy := by
  intro h
  rcases mem_intercalate h with rfl | ⟨w, hw, hbw⟩
  · simp at hb
  · exact not_mem_words hc hp (Or.inr hb) hw hbw

theorem splitOn_headerLine {client proxy : TCPAddr} (hc : Valid client) (hp : Valid proxy) :
    (headerLine client proxy).splitOn 0x20 = words client proxy :=
  List.splitOn_intercalate 0x20 (fun _ hw => not_mem_words hc hp (Or.inl rfl) hw)
    (by simp [words])

theorem length_headerLine_le {client proxy : TCPAddr} (hc : Valid client) (hp : Valid proxy) :
    (headerLine client proxy).length ≤ 102 := by
  have hcip := length_ipString_le hc.ip
  have hpip := length_ipString_le hp.ip
  have hport : ∀ {a : TCPAddr}, Valid a → (decimal a.port.toNat).length ≤ 5 := by
    intro a ha
    have hrange := ha.port
    exact length_decimal_le (by decide) (by omega)
  have hcport := hport hc
  have hpport := hport hp
  have hproto : (proto client).length = 4 := by
    unfold proto
    split <;> rfl
  have hmagic : (lit "PROXY").length = 5 := rfl
  simp only [headerLine, words, List.intercalate_cons_cons, List.intercalate_singleton,
    List.length_append, List.length_singleton]
  omega

theorem trimRight_headerLine {client proxy : TCPAddr} (hc : Valid client) (hp : Valid proxy) :
    trimRight (headerLine client proxy ++ [0x0d] ++ [0x0a]) = headerLine client proxy := by
  rw [trimRight, List.rdropWhile_concat_pos _ _ _ rfl, List.rdropWhile_concat_pos _ _ _ rfl,
    List.rdropWhile_eq_self_iff]
  intro hne hend
  have hmem := List.getLast_mem hne
  rcases Bool.or_eq_true _ _ ▸ hend with h | h
  · exact not_mem_headerLine hc hp (Or.inr rfl) (eq_of_beq h ▸ hmem)
  · exact not_mem_headerLine hc hp (Or.inl rfl) (eq_of_beq h ▸ hmem)

/-- What is read of a line that was written: the address, if the proxy is of the family that the
    client has. -/
theorem parseLine_headerLine {client proxy : TCPAddr} (hc : Valid client) (hp : Valid proxy)
    {src dst : Bytes} (hsrc : parseIP (ipString client.ip) = some src)
    (hdst : parseIP (ipString proxy.ip) = some dst) (hsrc4 : to4 src = to4 client.ip)
    (hdst4 : to4 dst = to4 proxy.ip) :
    parseLine parseIP (headerLine client proxy) =
      if to4 client.ip = none ↔ to4 proxy.ip = none then .ok { ip := src, port := client.port }
      else fail errMalformedProxy := by
  have h64 : lit "TCP6" ≠ lit "TCP4" := by decide
  have hunknown : lit "TCP6" ≠ lit "UNKNOWN" ∧ lit "TCP4" ≠ lit "UNKNOWN" := by decide
  rw [parseLine, splitOn_headerLine hc hp]
  simp only [words, hsrc, hdst, hc.parsePort_port, hp.parsePort_port, hsrc4, hdst4, proto]
  by_cases hc4 : to4 client.ip = none <;> by_cases hp4 : to4 proxy.ip = none <;>
    simp [hc4, hp4, h64, h64.symm, hunknown]

theorem readHeader_headerLine {client proxy : TCPAddr} (hc : Valid client) (hp : Valid proxy)
    {src dst : Bytes} (hsrc : parseIP (ipString client.ip) = some src)
    (hdst : parseIP (ipString proxy.ip) = some dst) (hsrcEq : equal src client.ip)
    (hdstEq : equal dst proxy.ip) (payload : Bytes) :
    readHeader parseIP (headerLine client proxy ++ [0x0d, 0x0a] ++ payload) =
      (if to4 client.ip = none ↔ to4 proxy.ip = none then .ok { ip := src, port := client.port }
        else fail errMalformedProxy, payload) := by
  have hstream : headerLine client proxy ++ [0x0d, 0x0a] ++ payload =
      (headerLine client proxy ++ [0x0d]) ++ 0x0a :: payload := by simp
  have hhead : (headerLine client proxy ++ [0x0d, 0x0a] ++ payload).head? = some 0x50 := rfl
  have hline : (0x0a : UInt8) ∉ headerLine client proxy ++ [0x0d] := by
    rw [List.mem_append, not_or]
    exact ⟨not_mem_headerLine hc hp (Or.inl rfl), by decide⟩
  have hlen : ¬ (headerLine client proxy ++ [0x0d]).length + 1 > maxHeaderLen := by
    have hle := length_headerLine_le hc hp
    rw [List.length_append, List.length_singleton, maxHeaderLen]
    omega
  rw [readHeader_eq_readHeaderV1 parseIP hhead, hstream, readHeaderV1_line parseIP hline,
    if_neg hlen, trimRight_headerLine hc hp, parseLine_headerLine parseIP hc hp hsrc hdst
      (to4_eq_of_equal hsrcEq) (to4_eq_of_equal hdstEq)]

/-- `ReadHeader` gives back what `WriteHeader` wrote, up to the form of the address, exactly if
    client and proxy are of one family. `net.ParseIP` is assumed to read the texts of these two
    addresses as `IP.String` means them. -/
theorem readHeader_writeHeader_iff (client proxy : TCPAddr) (hc : Valid client) (hp : Valid proxy)
    (hparse : ∀ a ∈ [client, proxy], ∃ ip, parseIP (ipString a.ip) = some ip ∧ equal ip a.ip)
    (payload : Bytes) :
    ∃ b, writeHeader (.tcp client) (.tcp proxy) = .ok b ∧
      ((∃ a, readHeader parseIP (b ++ payload) = (.ok a, payload) ∧ equal a.ip client.ip ∧
          a.port = client.port) ↔
        (to4 client.ip = none ↔ to4 proxy.ip = none)) := by
  obtain ⟨src, hsrc, hsrcEq⟩ := hparse client (by simp)
  obtain ⟨dst, hdst, hdstEq⟩ := hparse proxy (by simp)
  refine ⟨_, writeHeader_tcp hc hp, ?_⟩
  rw [readHeader_headerLine parseIP hc hp hsrc hdst hsrcEq hdstEq]
  by_cases hfamily : to4 client.ip = none ↔ to4 proxy.ip = none
  · rw [if_pos hfamily]
    exact ⟨fun _ => hfamily, fun _ => ⟨_, rfl, hsrcEq, rfl⟩⟩
  · rw [if_neg hfamily]
    refine ⟨?_, fun h => absurd h hfamily⟩
    rintro ⟨a, ha, -⟩
    exact absurd (Prod.mk.inj ha).1 (fail_ne_ok _ _)

/-- A `net.ParseIP` that knows the texts of these addresses only. -/
def parseKnown (known : List Bytes) (s : GoString) : Option Bytes :=
  known.find? fun ip => ipString ip == s

def clientV4 : TCPAddr := { ip := [192, 0, 2, 1], port := 40000 }
def proxyV4 : TCPAddr := { ip := [192, 0, 2, 9], port := 49 }
def proxyV6 : TCPAddr where
  ip := [0x20, 0x01, 0x0d, 0xb8] ++ List.replicate 11 0 ++ [9]
  port := 49

theorem readHeader_writeHeader_v4 :
    (Valid clientV4 ∧ Valid proxyV4) ∧
      ∃ b, writeHeader (.tcp clientV4) (.tcp proxyV4) = .ok b ∧
        ((∃ a, readHeader (parseKnown [clientV4.ip, proxyV4.ip]) (b ++ lit "x") =
              (.ok a, lit "x") ∧ equal a.ip clientV4.ip ∧ a.port = clientV4.port) ↔
          (to4 clientV4.ip = none ↔ to4 proxyV4.ip = none)) := by
  have hc : Valid clientV4 := ⟨by decide, by decide⟩
  have hp : Valid proxyV4 := ⟨by decide, by decide⟩
  refine ⟨⟨hc, hp⟩, readHeader_writeHeader_iff _ clientV4 proxyV4 hc hp ?_ (lit "x")⟩
  intro a ha
  simp only [List.mem_cons, List.not_mem_nil, or_false] at ha
  rcases ha with rfl | rfl
  · exact ⟨clientV4.ip, by decide +kernel, by decide⟩
  · exact ⟨proxyV4.ip, by decide +kernel, by decide⟩

/-- A client with an IPv4 address behind a proxy with an IPv6 address. -/
theorem readHeader_writeHeader_mixed :
    ∃ b, writeHeader (.tcp clientV4) (.tcp proxyV6) = .ok b ∧
      b = lit "PROXY TCP4 192.0.2.1 2001:db8::9 40000 49\r\n" ∧
      readHeader (parseKnown [clientV4.ip, proxyV6.ip]) b = (fail errMalformedProxy, []) :=
  ⟨_, rfl, by decide +kernel, by decide +kernel⟩

/-! ## The connection -/

/-- The headers that name a client: a line that `WriteHeader` writes for a client and a proxy of one
    family, and a block of either family with whatever follows the ports. -/
inductive Announces : Bytes → TCPAddr → Prop where
  | line {client proxy : TCPAddr} {src dst header : Bytes} :
      Valid client → Valid proxy → (to4 client.ip = none ↔ to4 proxy.ip = none) →
      parseIP (ipString client.ip) = some src → equal src client.ip →
      parseIP (ipString proxy.ip) = some dst → equal dst proxy.ip →
      writeHeader (.tcp client) (.tcp proxy) = .ok header →
      Announces header { ip := src, port := client.port }
  | block {verCmd famProto : UInt8} {addrLen sport dport : UInt16} {src dst tlvs : Bytes} :
      verCmd >>> 4 = v2Version → verCmd &&& 0x0f = v2CmdProxy →
      (famProto >>> 4 = v2FamInet ∧ src.length = 4 ∧ dst.length = 4 ∨
        famProto >>> 4 = v2FamInet6 ∧ src.length = 16 ∧ dst.length = 16) →
      addrLen.toNat = (endpoints src dst sport dport ++ tlvs).length →
      Announces (fixed verCmd famProto addrLen ++ (endpoints src dst sport dport ++ tlvs))
        { ip := src, port := sport.toNat }

variable {parseIP}

theorem Announces.readHeader {header : Bytes} {a : TCPAddr} (h : Announces parseIP header a)
    (payload : Bytes) : readHeader parseIP (header ++ payload) = (.ok a, payload) := by
  cases h with
  | line hc hp hfamily hsrc hsrcEq hdst hdstEq hwrite =>
    rw [writeHeader_tcp hc hp] at hwrite
    cases hwrite
    rw [readHeader_headerLine parseIP hc hp hsrc hdst hsrcEq hdstEq, if_pos hfamily]
  | block hver hcmd hfamily hlen =>
    rw [List.append_assoc]
    refine (readHeaderV2_header hver (Or.inr hcmd) _ hlen payload).trans ?_
    rcases hfamily with ⟨hfamily, hsrc, hdst⟩ | ⟨hfamily, hsrc, hdst⟩
    · rw [hcmd, hfamily, parseBlock_inet hsrc hdst]
    · rw [hcmd, hfamily, parseBlock_inet6 hsrc hdst]

variable {remote : Addr} {peer : GoString} {mode : Mode} {secret : Bytes}

theorem acceptWithProxy_announced {header : Bytes} {a : TCPAddr} (h : Announces parseIP header a)
    (payload : Bytes) :
    acceptWithProxy parseIP remote peer mode secret (header ++ payload) =
      (.ok ({ mode, secret, remoteAddr := peer }, .tcp a), payload) := by
  rw [acceptWithProxy, h.readHeader]

theorem acceptWithProxy_none {b : UInt8} (hP : b ≠ 0x50) (hCR : b ≠ 0x0d) (rest : Bytes) :
    acceptWithProxy parseIP remote peer mode secret (b :: rest) =
      (.ok ({ mode, secret, remoteAddr := peer }, remote), b :: rest) := by
  rw [acceptWithProxy, readHeader_none parseIP hP hCR]
  exact if_pos rfl

/-- A packet begins with its version, which begins no header. -/
theorem frame_head (md5 : Md5) (c : Conn) {p : Pkt} (h : Sendable p) :
    ∃ b rest, frame md5 c p = b :: rest ∧ b ≠ 0x50 ∧ b ≠ 0x0d := by
  have hversion : p.hdr.version = versionDefault ∨ p.hdr.version = versionOne := by
    simpa [Version.valid] using h.1
  refine ⟨p.hdr.version, _, rfl, ?_⟩
  rcases hversion with h | h
  · rw [h]
    decide
  · rw [h]
    decide

variable (parseIP remote peer)

/-- **The connection behind a proxy reads the client's packets**, and the address is that of the
    client if a header announces one and that of the peer if there is none. Either way the packets
    are all there, and nothing of the header is taken for a part of them. -/
theorem proxied_stream (md5 : Md5) (c : Conn) (ps : List Pkt)
    (hps : ∀ p ∈ ps, Version.valid p.hdr.version = true ∧ p.body.length ≤ maxPacketSize) :
    let conn : Conn := { c with remoteAddr := peer }
    ∃ s, writeAll md5 c ps = .ok s ∧
      (reader md5 conn).readAll s
        = ⟨ps.map fun p => ⟨arriving c p.hdr p.body, p.body⟩, .err .eof, []⟩ ∧
      (∀ header a, Announces parseIP header a →
        acceptWithProxy parseIP remote peer c.mode c.secret (header ++ s)
          = (.ok (conn, .tcp a), s)) ∧
      (ps ≠ [] →
        acceptWithProxy parseIP remote peer c.mode c.secret s = (.ok (conn, remote), s)) := by
  intro conn
  refine ⟨_, writeAll_eq md5 c ps, readAll_written md5 rfl rfl hps, ?_, ?_⟩
  · intro header a ha
    exact acceptWithProxy_announced ha _
  · intro hne
    cases ps with
    | nil => exact absurd rfl hne
    | cons p ps =>
      -- the first byte decides, and it is the version of the first packet
      obtain ⟨b, rest, hframe, hP, hCR⟩ := frame_head md5 c (hps p (by simp))
      rw [List.map_cons, List.flatten_cons, hframe, List.cons_append]
      exact acceptWithProxy_none hP hCR _

/-- A login of one packet from 192.0.2.1, behind a proxy that writes either header and from the
    client itself. -/
theorem proxied_stream_login :
    let c : Conn := ⟨.tls, [], []⟩
    let conn : Conn := { c with remoteAddr := lit "192.0.2.9:49" }
    let p : Pkt := ⟨{ version := 0xc0, type := 1, seqNo := 1, flags := 0, sessionID := 7 }, [1, 2]⟩
    let accept := acceptWithProxy (parseKnown [clientV4.ip, proxyV4.ip]) (.tcp proxyV4)
      (lit "192.0.2.9:49") .tls []
    ∃ s, writeAll default c [p] = .ok s ∧
      (reader default conn).readAll s = ⟨[⟨arriving c p.hdr p.body, [1, 2]⟩], .err .eof, []⟩ ∧
      accept (lit "PROXY TCP4 192.0.2.1 192.0.2.9 40000 49\r\n" ++ s)
        = (.ok (conn, .tcp clientV4), s) ∧
      accept (fixed 0x21 0x11 12 ++ (endpoints [192, 0, 2, 1] [192, 0, 2, 9] 40000 49 ++ []) ++ s)
        = (.ok (conn, .tcp clientV4), s) ∧
      accept s = (.ok (conn, .tcp proxyV4), s) := by
  intro c conn p accept
  have hc : Valid clientV4 := ⟨by decide, by decide⟩
  have hp : Valid proxyV4 := ⟨by decide, by decide⟩
  obtain ⟨s, hs, hread, hannounced, hnone⟩ :=
    proxied_stream (parseKnown [clientV4.ip, proxyV4.ip]) (.tcp proxyV4) (lit "192.0.2.9:49")
      default c [p] (by decide)
  refine ⟨s, hs, hread, ?_, ?_, hnone (by decide)⟩
  · have hparse : ∀ a ∈ [clientV4, proxyV4],
        parseKnown [clientV4.ip, proxyV4.ip] (ipString a.ip) = some a.ip := by decide +kernel
    refine hannounced _ _ (.line hc hp (by decide) (hparse clientV4 (by simp)) ?_
      (hparse proxyV4 (by simp)) ?_ ?_)
    all_goals decide +kernel
  · refine hannounced _ _ (.block ?_ ?_ (Or.inl ?_) ?_)
    all_goals decide

end Proxy
end Proof
end Tacacs
