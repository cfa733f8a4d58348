import Mathlib.Data.List.DropRight
import Tacacs.Lib.Ip
import Tacacs.Transport

/-!
# `transport/proxy/` and `transport/accept.go` — the address in front of a connection

A load balancer puts a header in front of what the client sends: a line of text (version 1) or a
block of bytes (version 2). `ReadHeader` tells them apart by the first byte and takes the header
off the stream; `AcceptWithProxy` hands the rest to the connection.

The stream is what the `bufio.Reader` still delivers, buffered or not. `net.ParseIP` is a
parameter; the other functions of the library are written out.
-/

set_option autoImplicit false

namespace Tacacs
namespace Proxy

open GoSem GoText GoNet Transport

def maxHeaderLen : Nat := 108

def errNoProxyHeader : GoError := .other [.text "proxy: no PROXY v1 header"]

def errMalformedProxy : GoError := .other [.text "proxy: malformed PROXY v1 header"]

structure TCPAddr where
  ip : Bytes
  port : Int
deriving DecidableEq, Repr

/-- `net.Addr`: a TCP address, or another one by the name of its type. -/
inductive Addr where
  | tcp (a : TCPAddr)
  | other (type : String)
deriving DecidableEq, Repr

/-! ## Version 1 -/

/-- `ReadString`: everything up to and with the delimiter, however far that is. -/
def readString (delim : UInt8) (r : Bytes) : Read GoString :=
  match r.idxOf? delim with
  | some i => (.ok (r.take (i + 1)), r.drop (i + 1))
  | none => (fail .eof, [])

/-- `strings.TrimRight(line, "\r\n")`. -/
def trimRight (line : GoString) : GoString := line.rdropWhile fun b => b == 0x0d || b == 0x0a

/-- `strconv.Atoi`, and a number that is a port. -/
def parsePort (s : GoString) : Option Int :=
  (atoi s).bind fun n => if n < 0 ∨ n > 65535 then none else some n

def parseLine (parseIP : GoString → Option Bytes) (line : GoString) : Go GoError TCPAddr :=
  match line.splitOn 0x20 with
  | magic :: proto :: rest =>
      if magic ≠ lit "PROXY" then fail errMalformedProxy
      else if proto = lit "UNKNOWN" then fail errNoProxyHeader
      else if proto ≠ lit "TCP4" ∧ proto ≠ lit "TCP6" then fail errMalformedProxy
      else
        match rest with
        | [src, dst, sport, dport] =>
            match parseIP src, parseIP dst, parsePort sport, parsePort dport with
            | some srcIP, some dstIP, some srcPort, some _ =>
                if proto = lit "TCP4" ∧ (to4 srcIP = none ∨ to4 dstIP = none) then
                  fail errMalformedProxy
                else if proto = lit "TCP6" ∧ (to4 srcIP ≠ none ∨ to4 dstIP ≠ none) then
                  fail errMalformedProxy
                else .ok { ip := srcIP, port := srcPort }
            | _, _, _, _ => fail errMalformedProxy
        | _ => fail errMalformedProxy
  | _ => fail errMalformedProxy

def readHeaderV1 (parseIP : GoString → Option Bytes) (r : Bytes) : Read TCPAddr :=
  match readString 0x0a r with
  | (.error e, r) => (.error e, r)
  | (.ok line, r) =>
      if line.length > maxHeaderLen then (fail errMalformedProxy, r)
      else (parseLine parseIP (trimRight line), r)

/-- `WriteHeader`: what is written. -/
def writeHeader : Addr → Addr → Except GoError Bytes
  | .other t, _ => .error (.other [.text "proxy: client must be *net.TCPAddr, got ", .text t])
  | .tcp _, .other t => .error (.other [.text "proxy: proxy must be *net.TCPAddr, got ", .text t])
  | .tcp c, .tcp p =>
      let proto := if to4 c.ip = none then lit "TCP6" else lit "TCP4"
      .ok (lit "PROXY " ++ proto ++ lit " " ++ ipString c.ip ++ lit " " ++ ipString p.ip ++
        lit " " ++ decimalInt c.port ++ lit " " ++ decimalInt p.port ++ [0x0d, 0x0a])

/-! ## Version 2 -/

def v2Sig : Bytes := [0x0d, 0x0a, 0x0d, 0x0a, 0x00, 0x0d, 0x0a, 0x51, 0x55, 0x49, 0x54, 0x0a]

def v2HeaderLen : Nat := 16
def v2Version : UInt8 := 0x2
def v2CmdLocal : UInt8 := 0x0
def v2CmdProxy : UInt8 := 0x1
def v2FamInet : UInt8 := 0x1
def v2FamInet6 : UInt8 := 0x2
def v2AddrLenInet : Nat := 12
def v2AddrLenInet6 : Nat := 36

/-- The loop over the signature, from `i` on. -/
def checkSig (hdr : Bytes) (i : Nat) : Bytes → Go GoError Unit
  | [] => .ok ()
  | s :: sig => do
      let b ← byteAt hdr i
      if b ≠ s then fail errMalformedProxy else checkSig hdr (i + 1) sig

/-- The fixed part: command, family and the length of the address block. -/
def parseFixed (hdr : Bytes) : Go GoError (UInt8 × UInt8 × UInt16) := do
  checkSig hdr 0 v2Sig
  let verCmd ← byteAt hdr 12
  if verCmd >>> 4 ≠ v2Version then fail errMalformedProxy
  else
    let cmd := verCmd &&& 0x0f
    if cmd ≠ v2CmdLocal ∧ cmd ≠ v2CmdProxy then fail errMalformedProxy
    else do
      let family := (← byteAt hdr 13) >>> 4
      let addrLen ← uint16At (← slice hdr 14 16)
      return (cmd, family, addrLen)

/-- The address block, once it has been read. -/
def parseBlock (cmd family : UInt8) (addr : Bytes) : Go GoError TCPAddr :=
  if cmd = v2CmdLocal then fail errNoProxyHeader
  else if family = v2FamInet then
    if addr.length < v2AddrLenInet then fail errMalformedProxy
    else do
      let ip ← slice addr 0 4
      let port ← uint16At (← slice addr 8 10)
      return { ip, port := port.toNat }
  else if family = v2FamInet6 then
    if addr.length < v2AddrLenInet6 then fail errMalformedProxy
    else do
      let ip ← slice addr 0 16
      let port ← uint16At (← slice addr 32 34)
      return { ip, port := port.toNat }
  else fail errNoProxyHeader

def readHeaderV2 (r : Bytes) : Read TCPAddr :=
  match readFull v2HeaderLen r with
  | (.error e, r) => (.error e, r)
  | (.ok hdr, r) =>
      match parseFixed hdr with
      | .error e => (.error e, r)
      | .ok (cmd, family, addrLen) =>
          match readFull addrLen.toNat r with
          | (.error e, r) => (.error e, r)
          | (.ok addr, r) => (parseBlock cmd family addr, r)

/-! ## Either version -/

def readHeader (parseIP : GoString → Option Bytes) (r : Bytes) : Read TCPAddr :=
  match r with
  | [] => (fail .eof, [])
  | b :: _ =>
      if b = 0x50 then readHeaderV1 parseIP r
      else if b = 0x0d then readHeaderV2 r
      else (fail errNoProxyHeader, r)

/-- `AcceptWithProxy`: the connection, the address of the client, and the stream that the
    connection reads. `remote` is the address of the peer, and `peer` its text. -/
def acceptWithProxy (parseIP : GoString → Option Bytes) (remote : Addr) (peer : GoString)
    (mode : Mode) (secret : Bytes) (r : Bytes) : Read (Conn × Addr) :=
  let conn : Conn := { mode, secret, remoteAddr := peer }
  match readHeader parseIP r with
  | (.ok a, r) => (.ok (conn, .tcp a), r)
  | (.error (.err e), r) => if e = errNoProxyHeader then (.ok (conn, remote), r) else (fail e, r)
  | (.error .panic, r) => (.error .panic, r)

end Proxy
end Tacacs
