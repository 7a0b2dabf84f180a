import Mathlib.Init

/-!
# Errors of the connection layer

`ConnectionError` as `waepic-connection/src/error.rs` declares it, with the
text its `Display` gives.  A byte string is a list of bytes.
-/

namespace Waepic.Connection

/-- A byte string. -/
abbrev Bytes := List UInt8

/-- Errors of the transport, the handshake and frame processing. -/
inductive ConnectionError where
  /-- Failed to encrypt a frame for sending. -/
  | encrypt (message : String)
  /-- Failed to decrypt a received frame. -/
  | decrypt (message : String)
  /-- Underlying socket or transport error. -/
  | socket (message : String)
  /-- Protocol-level error. -/
  | protocol (message : String)
  /-- Operation attempted while not connected. -/
  | notConnected
  /-- I/O error, shown as the error it wraps. -/
  | io (message : String)
deriving DecidableEq, Repr

/-- The text `Display` writes. -/
def ConnectionError.toText : ConnectionError → String
  | .encrypt message => "encrypt failed: " ++ message
  | .decrypt message => "decrypt failed: " ++ message
  | .socket message => "socket error: " ++ message
  | .protocol message => "protocol error: " ++ message
  | .notConnected => "not connected"
  | .io message => message

/-- A `Result` of the connection layer. -/
abbrev Result (α : Type) := Except ConnectionError α

end Waepic.Connection
