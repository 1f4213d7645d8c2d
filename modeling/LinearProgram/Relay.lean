import LinearProgram.Host.Basic
import LinearProgram.Text.Line

/-!
Relaying the log of an embedded solver to the journal.

The solver appends to a file. Each call forwards the complete lines written since the last one, and remembers
the place behind them.

* `Relay`: the log file and the place up to which it has been forwarded.
* `forward`: the messages in some complete lines and the place behind them.
* `Relay.run`: one call.
-/

namespace LinearProgram

/-- A log file and the number of its bytes that have been forwarded. -/
structure Relay where
  solver : String
  path : String
  offset : Nat
  deriving DecidableEq

/-- What has been forwarded from some bytes: the messages, the number of bytes they take with the blank lines
among them, and whether bytes that are not UTF-8 put an end to it. -/
structure Forwarded where
  messages : List String
  taken : Nat
  garbled : Bool
  deriving DecidableEq

/-- Forward complete lines, given without their ends, and look at the unfinished line behind them. -/
def forward : List (List UInt8) → List UInt8 → Forwarded
  | [], unfinished => ⟨[], 0, (Utf8.decode? unfinished).isNone⟩
  | line :: lines, unfinished =>
    match Utf8.decode? line with
    | none => ⟨[], 0, true⟩
    | some text =>
      let rest := forward lines unfinished
      let message := trimEnd text.toList
      { messages := if message.isEmpty then rest.messages else String.ofList message :: rest.messages
        taken := line.length + 1 + rest.taken
        garbled := rest.garbled }

/-- Forward the bytes behind a place. -/
def forwardBytes (bytes : List UInt8) : Forwarded :=
  let ps := pieces (fun b => b = 10) bytes
  forward ps.dropLast (ps.getLast?.getD [])

namespace Relay

/-- A relay for a new, empty log file. -/
def new (solver : String) : HostM Relay := do
  let path ← Host.makeTemporary (solver ++ "-") ".log"
  pure ⟨solver, path, 0⟩

/-- Forward every complete line written since the last call, and count the lines that are not blank. -/
def run : ExceptT Error (StateM (Relay × Host)) Nat := fun (relay, h) =>
  match Host.read relay.path h with
  | (.error e, h) => (.error e, (relay, h))
  | (.ok bytes, h) =>
    let new := forwardBytes (bytes.drop relay.offset)
    let h := (Host.note (new.messages.map fun m => .info s!"{relay.solver}: {m}") h).2
    let relay := { relay with offset := relay.offset + new.taken }
    if new.garbled then (.error (.file .invalidData), (relay, h))
    else (.ok new.messages.length, (relay, h))

end Relay

end LinearProgram
