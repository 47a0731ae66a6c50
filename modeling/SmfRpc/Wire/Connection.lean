import SmfRpc.Wire.Envelope

/-!
# `rpc_connection`

`src/include/smf/rpc_connection.h` is one TCP connection of either side: the
input stream, the output stream, the `enabled_` flag and the error history.
`RpcConnection` keeps of the socket and the streams what the server and the
client read and write: the bytes received and not read yet, whether the input
was shut down or closed by the peer, `eof()`, and what was written to the
output.

`read_exactly` on a seastar input stream waits until `n` bytes arrived, or
answers what is left when the input ends, which also sets `eof()`;
`readExactly` is that, with `none` for a read that has to wait.  A read can
also fail with an exception, when the peer resets the connection: that is not
a function of the bytes, and the server model has it as an event of its own,
`ServerEvent.readFailed`.
-/

namespace Smf

/-- An `rpc_connection`. -/
structure RpcConnection where
  input : List UInt8
  inputClosed : Bool
  eof : Bool
  enabled : Bool
  error : Option String
  output : List OutputEvent
  outputClosed : Bool
  deriving DecidableEq, Repr, Inhabited

namespace RpcConnection

/-- A connection just made. -/
def init : RpcConnection :=
  { input := [], inputClosed := false, eof := false, enabled := true, error := none,
    output := [], outputClosed := false }

/-- `rpc_connection::has_error`. -/
def hasError (c : RpcConnection) : Bool := c.error.isSome

/-- `rpc_connection::is_valid`: enabled, no error, and not at the end of the
input. -/
def isValid (c : RpcConnection) : Bool := c.enabled && !c.hasError && !c.eof

/-- `rpc_connection::set_error`: the first error, or the history joined by
`" :: "`. -/
def setError (c : RpcConnection) (e : String) : RpcConnection :=
  match c.error with
  | none => { c with error := some e }
  | some old => { c with error := some (old ++ " :: " ++ e) }

/-- `disable()`, then `shutdown_input()` and `shutdown_output()` on the
socket. -/
def shutdown (c : RpcConnection) : RpcConnection :=
  { c with enabled := false, inputClosed := true, outputClosed := true }

/-- `read_exactly n` on the input: `n` bytes, or what is left when the input
was closed, which also sets `eof()`.  `none` when the read has to wait for
more bytes. -/
def readExactly (c : RpcConnection) (n : Nat) : Option (List UInt8 × RpcConnection) :=
  if n ≤ c.input.length then some (c.input.take n, { c with input := c.input.drop n })
  else if c.inputClosed then some (c.input, { c with input := [], eof := true })
  else none

@[simp] theorem hasError_setError (c : RpcConnection) (e : String) :
    (c.setError e).hasError = true := by
  unfold setError; split <;> rfl

@[simp] theorem isValid_setError (c : RpcConnection) (e : String) :
    (c.setError e).isValid = false := by
  simp [isValid]

@[simp] theorem output_setError (c : RpcConnection) (e : String) :
    (c.setError e).output = c.output := by
  unfold setError; split <;> rfl

@[simp] theorem isValid_shutdown (c : RpcConnection) : c.shutdown.isValid = false := by
  simp [shutdown, isValid]

end RpcConnection

end Smf
