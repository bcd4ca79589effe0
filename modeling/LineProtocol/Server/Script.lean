import LineProtocol.Server.Blueprint

/-!
# Scripts

A script is a handler written as data: a list of actions on the wire and on a store of octet
sequences under keys, which is the state of the connection. Actions are done in order and the
first that fails ends the script with its failure. An action is given the command's parameters,
or the option's key and value, as named bindings.
-/

set_option autoImplicit false

namespace LineProtocol

/-- Octet sequences under keys, each key once. -/
abbrev Store := List (String × Bytes)

namespace Store

/-- The octets under a key, none if there is no such key. -/
def get (store : Store) (key : String) : Bytes :=
  (store.lookup key).getD []

/-- The store without a key. -/
def clear (store : Store) (key : String) : Store :=
  store.filter (·.1 ≠ key)

/-- Puts octets under a key. -/
def set (store : Store) (key : String) (octets : Bytes) : Store :=
  store.clear key ++ [(key, octets)]

end Store

namespace Script

/-- The text of each variable. -/
abbrev Bindings := List (String × String)

/-- An argument of an action. -/
inductive Argument (α : Type) where
  | constant (value : α)
  | variable (name : String)
  | stored (key : String)

/-- The octets that an argument stands for. -/
def Argument.octets (bindings : Bindings) (store : Store) : Argument Bytes → Bytes
  | .constant octets => octets
  | .variable name => Utf8.encode ((bindings.lookup name).getD "")
  | .stored key => store.get key

/-- The text that an argument stands for. -/
def Argument.text (bindings : Bindings) (store : Store) : Argument String → String
  | .constant text => text
  | .variable name => (bindings.lookup name).getD ""
  | .stored key => Utf8.decodeLossy (store.get key)

/-- What a script can do. -/
inductive Action where
  | data (payload : Argument Bytes)
  | comment (text : Argument String)
  | status (keyword text : Argument String)
  /-- Asks for a keyword and stores the answer. -/
  | inquire (keyword : Argument String) (key : String)
  | set (key : String) (value : Argument Bytes)
  | append (key : String) (value : Argument Bytes)
  | clear (key : String)
  /-- Fails with a fault unless the key is stored. -/
  | need (key : String) (fault : Fault)
  /-- Goes on with one list or the other as two values are the same or not. -/
  | branch (left right : Argument Bytes) (same different : List Action)
  /-- Does an action and goes on even if it fails. -/
  | attempt (action : Action)
  | fail (rejection : Rejection)

/-- What a step on the wire leaves behind. -/
def afterStep (store : Store) : Except Failure Unit → Program (Store × Outcome)
  | .ok () => .done (store, .ok ())
  | .error cause => .done (store, .error (.ofFailure cause))

mutual

/-- The program of an action. -/
def Action.perform (bindings : Bindings) (store : Store) : Action → Program (Store × Outcome)
  | .data payload => .data (payload.octets bindings store) (afterStep store)
  | .comment text => .comment (text.text bindings store) (afterStep store)
  | .status keyword text =>
    .status (keyword.text bindings store) (text.text bindings store) (afterStep store)
  | .inquire keyword key =>
    .inquire (keyword.text bindings store) fun
      | .ok octets => .done (store.set key octets, .ok ())
      | .error rejection => .done (store, .error rejection)
  | .set key value => .done (store.set key (value.octets bindings store), .ok ())
  | .append key value =>
    .done (store.set key (store.get key ++ value.octets bindings store), .ok ())
  | .clear key => .done (store.clear key, .ok ())
  | .need key fault =>
    if (store.lookup key).isSome then .done (store, .ok ())
    else .done (store, .error (.report fault))
  | .branch left right same different =>
    if left.octets bindings store = right.octets bindings store then
      performAll bindings store same
    else performAll bindings store different
  | .attempt action =>
    (action.perform bindings store).bind fun (store, _) ↦ .done (store, .ok ())
  | .fail rejection => .done (store, .error rejection)

/-- The program of a list of actions. -/
def performAll (bindings : Bindings) (store : Store) :
    List Action → Program (Store × Outcome)
  | [] => .done (store, .ok ())
  | action :: rest =>
    (action.perform bindings store).bind fun
      | (store, .ok ()) => performAll bindings store rest
      | (store, .error rejection) => .done (store, .error rejection)

end

/-- The handler that a script describes. -/
def handler (actions : List Action) : Handler Store :=
  fun store parameters ↦ performAll [("params", parameters)] store actions

/-- What a program comes to away from any wire: what it sends is dropped, and nothing it asks for
is there. -/
def offline {α : Type} : Program α → α
  | .done result => result
  | .data _ next => offline (next (.ok ()))
  | .comment _ next => offline (next (.ok ()))
  | .status _ _ next => offline (next (.ok ()))
  | .inquire _ next => offline (next (.error (.fatal .closed)))

/-- The option setter that a script describes. -/
def setter (actions : List Action) : OptionSetter Store :=
  fun store key value ↦ offline (performAll [("key", key), ("value", value)] store actions)

end Script

end LineProtocol
