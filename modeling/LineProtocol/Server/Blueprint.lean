import LineProtocol.Registry
import LineProtocol.Server.Program

/-!
# Blueprints

A blueprint describes a protocol once for all its connections: the greeting, a handler for each
verb, help for topics, the state a connection starts with, and what setting an option does. Verbs
and topics are registered in any ASCII case, and the last registration counts.
-/

set_option autoImplicit false

namespace LineProtocol

/-- How a handler ends. -/
abbrev Outcome := Except Rejection Unit

/-- What a command does, given the connection's state and the parameters: a program that gives
the new state. -/
abbrev Handler (σ : Type) := σ → String → Program (σ × Outcome)

/-- What setting an option does, given the connection's state, the key and the value. -/
abbrev OptionSetter (σ : Type) := σ → String → String → σ × Outcome

/-- A registered command. -/
structure Command (σ : Type) where
  /-- The verb as it was registered. -/
  verb : String
  handler : Handler σ

/-- The description of a protocol whose connections have a state of type `σ`. -/
structure Blueprint (σ : Type) where
  greeting : String
  commands : Registry (Command σ)
  help : Registry (List String)
  /-- The state after a reset. -/
  blank : σ
  /-- The state of a new connection, if it is not the blank one. -/
  initial : Option σ
  setter : Option (OptionSetter σ)

namespace Blueprint

variable {σ : Type}

/-- The blueprint with a greeting and nothing else. -/
def plain (blank : σ) (greeting : String) : Blueprint σ where
  greeting := greeting
  commands := .empty
  help := .empty
  blank := blank
  initial := none
  setter := none

/-- Replaces the greeting. -/
def withGreeting (blueprint : Blueprint σ) (greeting : String) : Blueprint σ :=
  { blueprint with greeting := greeting }

/-- Registers a command. -/
def withCommand (blueprint : Blueprint σ) (verb : String) (handler : Handler σ) : Blueprint σ :=
  { blueprint with commands := blueprint.commands.register verb ⟨verb, handler⟩ }

/-- Registers the help lines of a topic. -/
def withHelp (blueprint : Blueprint σ) (topic : String) (lines : List String) : Blueprint σ :=
  { blueprint with help := blueprint.help.register topic lines }

/-- Sets the state of a new connection. -/
def withInitial (blueprint : Blueprint σ) (initial : σ) : Blueprint σ :=
  { blueprint with initial := some initial }

/-- Sets what setting an option does. -/
def withSetter (blueprint : Blueprint σ) (setter : OptionSetter σ) : Blueprint σ :=
  { blueprint with setter := some setter }

/-- The state of a new connection. -/
def start (blueprint : Blueprint σ) : σ :=
  blueprint.initial.getD blueprint.blank

end Blueprint

end LineProtocol
