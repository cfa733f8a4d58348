import Tacacs.Cli.Composite
import Tacacs.Lib.Json

/-!
# `cmd/tacacs-cli/aaa/accounter.go` — the accounting log

`FileAccounter` appends each record to a file as a line of JSON, written by the `Encode` of one
`json.Encoder`. A write may fail after some of its bytes; the encoder remembers the error of a
failed write and returns it from every later call without writing again.
-/

set_option autoImplicit false

namespace Tacacs
namespace Cli

open GoSem GoJson

/-! ## JSON -/

/-- `types.Argument` has no tags: its fields go by their names. -/
def argumentJson (a : Argument) : Json :=
  .obj [(lit "Mandatory", .bool a.mandatory), (lit "Name", .str a.name),
    (lit "Value", .str a.value)]

/-- A string field with `omitempty`. -/
def stringMember (key s : GoString) : List (Bytes × Json) := if s = [] then [] else [(key, .str s)]

def argsMember (args : List Argument) : List (Bytes × Json) :=
  if args = [] then [] else [(lit "args", .arr (args.map argumentJson))]

def AcctRecord.members (r : AcctRecord) : List (Bytes × Json) :=
  [(lit "ts", .str r.timestamp), (lit "session_id", .num r.sessionID.toNat),
    (lit "seq_no", .num r.seqNo.toNat), (lit "record", .str r.record)] ++
  stringMember (lit "user") r.user ++ stringMember (lit "port") r.port ++
  stringMember (lit "rem_addr") r.remAddr ++ stringMember (lit "remote") r.remote ++
  argsMember r.args

/-- The text of a record, with `<`, `>` and `&` escaped or not. -/
def AcctRecord.json (escapeHTML : Bool) (r : AcctRecord) : Bytes :=
  encode escapeHTML (.obj r.members)

/-- What `Encode` writes: `SetEscapeHTML(false)`, and a newline at the end. -/
def AcctRecord.line (r : AcctRecord) : Bytes := r.json false ++ [0x0a]

/-! ## The file -/

/-- The file system, over a state of its own: a write succeeds, or fails after the first bytes. -/
structure Disk (δ : Type) where
  write : Bytes → δ → Option (Nat × GoError) × δ

/-- The file, opened for appending, and the error the encoder remembers. -/
structure LogFile (δ : Type) where
  content : Bytes
  disk : δ
  err : Option GoError := none

variable {δ : Type}

/-- `enc.Encode(rec)`. -/
def LogFile.encode (d : Disk δ) (r : AcctRecord) (f : LogFile δ) : Option GoError × LogFile δ :=
  match f.err with
  | some err => (some err, f)
  | none =>
      match d.write r.line f.disk with
      | (none, disk) => (none, { f with content := f.content ++ r.line, disk })
      | (some (n, err), disk) =>
          (some err, { content := f.content ++ r.line.take n, disk, err := some err })

/-- `NewFileAccounter`, on a file that could be opened. -/
def newFileAccounter (d : Disk δ) (now : LogFile δ → GoString) : FileAccounter (LogFile δ) where
  now := now
  encode r f := f.encode d r

/-- `NewSyslogAccounter`, on a daemon that could be reached: `json.Marshal` escapes HTML. -/
def newSyslogAccounter {σ : Type} (now : σ → GoString)
    (info : GoString → σ → Option GoError × σ) : SyslogAccounter σ where
  now := now
  marshal r := .ok (r.json true)
  info := info

end Cli
end Tacacs
