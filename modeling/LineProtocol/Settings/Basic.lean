import LineProtocol.Text.Utf8
import LineProtocol.Failure

/-!
# Settings

What a server can be told before it starts. Every setting has a default. A socket path takes
precedence over the listen address, and a time limit of zero is none.
-/

set_option autoImplicit false

namespace LineProtocol

/-- The settings of a server. -/
structure Settings where
  listenAddress : String
  socketPath : Option String
  /-- The most live connections. -/
  maxConnections : Nat
  /-- In milliseconds. -/
  readTimeout : Nat
  /-- In milliseconds. -/
  writeTimeout : Nat
  greeting : Option String
  deriving DecidableEq, Repr

namespace Settings

/-- The settings of a server that was told nothing. -/
def default : Settings where
  listenAddress := "127.0.0.1:7300"
  socketPath := none
  maxConnections := 1024
  readTimeout := 0
  writeTimeout := 5000
  greeting := none

/-- What a path names when settings are read from it. -/
inductive File where
  | missing
  | directory
  | data (octets : Bytes)
  deriving DecidableEq, Repr

/-- The text of a settings file. -/
def text (path : String) : File → Except Failure String
  | .missing =>
    .error (.configuration
      ("cannot read " ++ path ++ ": No such file or directory (os error 2)"))
  | .directory =>
    .error (.configuration ("cannot read " ++ path ++ ": Is a directory (os error 21)"))
  | .data octets =>
    match Utf8.decode? octets with
    | some text => .ok text
    | none =>
      .error (.configuration ("cannot read " ++ path ++ ": stream did not contain valid UTF-8"))

end Settings

end LineProtocol
