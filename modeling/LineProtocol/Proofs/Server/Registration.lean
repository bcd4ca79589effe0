import LineProtocol.Proofs.Server.Ending
import Mathlib.Data.List.Induction
import Mathlib.Data.List.Sort
import Mathlib.Data.String.Basic

/-!
# What has been registered

A blueprint comes about by registrations, one after the other. Whatever they are, a verb is looked
up as the last command that was registered for it in any ASCII case (`find?_commands`), and a topic
as the last help (`find?_help`). The registered verbs are listed in increasing order and each of
them once (`mem_names_commands`).

Handlers that are registered for the conversation's own verbs never run, that for `RESET` aside:
`Blueprint.Alike` blueprints, which may differ in them, make the same conversations, and leaving
them out makes a blueprint that is alike (`alike_without_reserved`).
-/

set_option autoImplicit false

namespace LineProtocol

/-! ### Registries -/

namespace Registry

variable {α : Type}

theorem lookup_cons (name other : String) (entry : α) (later : List (String × α)) :
    ((name, entry) :: later).lookup other =
      if other = name then some entry else later.lookup other := by
  rw [List.lookup_cons]
  by_cases h : other = name
  · rw [if_pos h, beq_iff_eq.2 h]
  · rw [if_neg h, beq_eq_false_iff_ne.2 h]

theorem lookup_insert (name other : String) (entry : α) (entries : List (String × α)) :
    (insert name entry entries).lookup other =
      if other = name then some entry else entries.lookup other := by
  induction entries with
  | nil => exact lookup_cons name other entry []
  | cons head later ih =>
    obtain ⟨first, old⟩ := head
    rw [insert]
    by_cases hless : name < first
    · rw [if_pos hless, lookup_cons]
    by_cases hsame : name = first
    · rw [if_neg hless, if_pos hsame, lookup_cons, lookup_cons, hsame]
      split_ifs <;> rfl
    · rw [if_neg hless, if_neg hsame, lookup_cons, lookup_cons, ih]
      split_ifs with hfirst hname
      · exact absurd (hname.symm.trans hfirst) hsame
      · rfl
      · rfl
      · rfl

theorem find?_register (registry : Registry α) (name other : String) (entry : α) :
    (registry.register name entry).find? other =
      if other = upperCase name then some entry else registry.find? other :=
  lookup_insert _ _ _ _

theorem mem_names_iff (registry : Registry α) (name : String) :
    name ∈ registry.names ↔ (registry.find? name).isSome := by
  simp only [names, List.mem_map, find?, List.lookup_isSome_iff, beq_iff_eq, eq_comm (a := name)]

theorem increasing_names (registry : Registry α) : registry.names.Pairwise (· < ·) :=
  List.pairwise_map.2 registry.increasing

/-- The registry that comes of registering entries, one after the other. -/
def ofEntries (entries : List (String × α)) : Registry α :=
  entries.foldl (fun registry entry ↦ registry.register entry.1 entry.2) .empty

/-- What is registered under a name in any ASCII case, the latest last. -/
def entriesFor (name : String) (entries : List (String × α)) : List α :=
  (entries.filter fun entry ↦ upperCase entry.1 = name).map (·.2)

theorem ofEntries_concat (entries : List (String × α)) (last : String × α) :
    ofEntries (entries ++ [last]) = (ofEntries entries).register last.1 last.2 :=
  List.foldl_concat ..

/-- The last registration counts. -/
theorem find?_ofEntries (entries : List (String × α)) (name : String) :
    (ofEntries entries).find? name = (entriesFor name entries).getLast? := by
  induction entries using List.reverseRecOn with
  | nil => rfl
  | append_singleton earlier last ih =>
    rw [ofEntries_concat, find?_register, ih, entriesFor, entriesFor, List.filter_append,
      List.map_append, List.getLast?_append]
    by_cases hname : name = upperCase last.1
    · simp [hname]
    · simp [hname, eq_comm (a := upperCase last.1)]

theorem mem_entriesFor {name : String} {entry : α} {entries : List (String × α)} :
    entry ∈ entriesFor name entries ↔ ∃ key, (key, entry) ∈ entries ∧ upperCase key = name := by
  simp [entriesFor, and_comm]

theorem mem_names_ofEntries (entries : List (String × α)) (name : String) :
    name ∈ (ofEntries entries).names ↔ entriesFor name entries ≠ [] := by
  rw [mem_names_iff, find?_ofEntries, List.getLast?_isSome]

end Registry

/-! ### Registrations -/

variable {σ : Type}

/-- What may be said of a protocol in its description. -/
inductive Registration (σ : Type) where
  | greeting (text : String)
  | command (verb : String) (handler : Handler σ)
  | help (topic : String) (lines : List String)
  | initial (state : σ)
  | setter (setter : OptionSetter σ)

namespace Registration

/-- The command that is registered, if one is, and the verb it is registered for. -/
def command? : Registration σ → Option (String × Command σ)
  | .command verb handler => some (verb, ⟨verb, handler⟩)
  | .greeting _ | .help _ _ | .initial _ | .setter _ => none

/-- The help that is registered, if some is, and the topic it is registered for. -/
def help? : Registration σ → Option (String × List String)
  | .help topic lines => some (topic, lines)
  | .greeting _ | .command _ _ | .initial _ | .setter _ => none

/-- The commands that are registered for a verb in any ASCII case, the latest last. -/
def commandsFor (verb : String) (registrations : List (Registration σ)) : List (Command σ) :=
  Registry.entriesFor verb (registrations.filterMap command?)

/-- The help that is registered for a topic in any ASCII case, the latest last. -/
def helpFor (topic : String) (registrations : List (Registration σ)) : List (List String) :=
  Registry.entriesFor topic (registrations.filterMap help?)

/-- A command is registered for a verb, in some ASCII case. -/
def HasCommand (registrations : List (Registration σ)) (verb : String) : Prop :=
  ∃ name handler, .command name handler ∈ registrations ∧ upperCase name = verb

/-- Help is registered for a topic, in some ASCII case. -/
def HasHelp (registrations : List (Registration σ)) (topic : String) : Prop :=
  ∃ name lines, .help name lines ∈ registrations ∧ upperCase name = topic

/-- Whether a command is registered for one of the verbs that a conversation keeps to itself. -/
def isReserved : Registration σ → Bool
  | .command verb _ => ["NOP", "OPTION", "BYE", "HELP"].contains (upperCase verb)
  | .greeting _ | .help _ _ | .initial _ | .setter _ => false

theorem mem_commandsFor {verb : String} {found : Command σ}
    {registrations : List (Registration σ)} :
    found ∈ commandsFor verb registrations ↔
      .command found.verb found.handler ∈ registrations ∧ upperCase found.verb = verb := by
  rw [commandsFor, Registry.mem_entriesFor]
  simp only [List.mem_filterMap]
  constructor
  · rintro ⟨key, ⟨registration, hmem, hentry⟩, hname⟩
    cases registration with
    | command name handler =>
      cases hentry
      exact ⟨hmem, hname⟩
    | _ => exact nomatch hentry
  · rintro ⟨hmem, hname⟩
    exact ⟨found.verb, ⟨_, hmem, rfl⟩, hname⟩

theorem mem_helpFor {topic : String} {lines : List String}
    {registrations : List (Registration σ)} :
    lines ∈ helpFor topic registrations ↔
      ∃ name, .help name lines ∈ registrations ∧ upperCase name = topic := by
  rw [helpFor, Registry.mem_entriesFor]
  simp only [List.mem_filterMap]
  constructor
  · rintro ⟨key, ⟨registration, hmem, hentry⟩, hname⟩
    cases registration with
    | help name found =>
      cases hentry
      exact ⟨_, hmem, hname⟩
    | _ => exact nomatch hentry
  · rintro ⟨name, hmem, hname⟩
    exact ⟨name, ⟨_, hmem, rfl⟩, hname⟩

theorem commandsFor_ne_nil_iff {verb : String} {registrations : List (Registration σ)} :
    commandsFor verb registrations ≠ [] ↔ HasCommand registrations verb := by
  constructor
  · intro hsome
    obtain ⟨found, hfound⟩ := List.exists_mem_of_ne_nil _ hsome
    obtain ⟨hmem, hname⟩ := mem_commandsFor.1 hfound
    exact ⟨_, _, hmem, hname⟩
  · rintro ⟨name, handler, hmem, hname⟩
    have hfound : Command.mk name handler ∈ commandsFor verb registrations :=
      mem_commandsFor.2 ⟨hmem, hname⟩
    exact List.ne_nil_of_mem hfound

theorem helpFor_ne_nil_iff {topic : String} {registrations : List (Registration σ)} :
    helpFor topic registrations ≠ [] ↔ HasHelp registrations topic := by
  constructor
  · intro hsome
    obtain ⟨lines, hlines⟩ := List.exists_mem_of_ne_nil _ hsome
    obtain ⟨name, hmem, hname⟩ := mem_helpFor.1 hlines
    exact ⟨name, lines, hmem, hname⟩
  · rintro ⟨name, lines, hmem, hname⟩
    exact List.ne_nil_of_mem (mem_helpFor.2 ⟨name, hmem, hname⟩)

theorem commandsFor_cons (verb : String) (first : Registration σ)
    (later : List (Registration σ)) :
    commandsFor verb (first :: later) =
      match first with
      | .command name handler =>
        if upperCase name = verb then ⟨name, handler⟩ :: commandsFor verb later
        else commandsFor verb later
      | _ => commandsFor verb later := by
  cases first with
  | command name handler =>
    simp only [commandsFor, List.filterMap_cons, Registration.command?,
      Registry.entriesFor, List.filter_cons, decide_eq_true_eq]
    split_ifs <;> rfl
  | _ => rfl

theorem commandsFor_filter {verb : String} (hverb : verb ∉ ["NOP", "OPTION", "BYE", "HELP"])
    (registrations : List (Registration σ)) :
    commandsFor verb (registrations.filter (!·.isReserved)) =
      commandsFor verb registrations := by
  induction registrations with
  | nil => rfl
  | cons first later ih =>
    by_cases hreserved : first.isReserved = true
    · rw [List.filter_cons_of_neg (by simp [hreserved]), ih, commandsFor_cons]
      cases first with
      | command name handler =>
        have hname : upperCase name ≠ verb := by
          rintro rfl
          exact hverb (List.contains_iff_mem.1 hreserved)
        exact (if_neg hname).symm
      | _ => rfl
    · rw [List.filter_cons_of_pos (by simp [hreserved]), commandsFor_cons, commandsFor_cons, ih]

end Registration

namespace Blueprint

/-- A blueprint after one more registration. -/
def register (blueprint : Blueprint σ) : Registration σ → Blueprint σ
  | .greeting text => blueprint.withGreeting text
  | .command verb handler => blueprint.withCommand verb handler
  | .help topic lines => blueprint.withHelp topic lines
  | .initial state => blueprint.withInitial state
  | .setter setter => blueprint.withSetter setter

/-- The blueprint that comes of registrations, one after the other. -/
def ofRegistrations (blank : σ) (greeting : String) (registrations : List (Registration σ)) :
    Blueprint σ :=
  registrations.foldl register (plain blank greeting)

variable (blank : σ) (greeting : String) (registrations : List (Registration σ))

theorem ofRegistrations_concat (last : Registration σ) :
    ofRegistrations blank greeting (registrations ++ [last]) =
      (ofRegistrations blank greeting registrations).register last :=
  List.foldl_concat ..

theorem commands_ofRegistrations :
    (ofRegistrations blank greeting registrations).commands =
      .ofEntries (registrations.filterMap Registration.command?) := by
  induction registrations using List.reverseRecOn with
  | nil => rfl
  | append_singleton earlier last ih =>
    rw [ofRegistrations_concat, List.filterMap_append]
    cases last with
    | command verb handler =>
      rw [register, withCommand, ih]
      exact (Registry.ofEntries_concat _ (verb, Command.mk verb handler)).symm
    | _ => exact ih.trans (congrArg Registry.ofEntries (List.append_nil _).symm)

theorem help_ofRegistrations :
    (ofRegistrations blank greeting registrations).help =
      .ofEntries (registrations.filterMap Registration.help?) := by
  induction registrations using List.reverseRecOn with
  | nil => rfl
  | append_singleton earlier last ih =>
    rw [ofRegistrations_concat, List.filterMap_append]
    cases last with
    | help topic lines =>
      rw [register, withHelp, ih]
      exact (Registry.ofEntries_concat _ (topic, lines)).symm
    | _ => exact ih.trans (congrArg Registry.ofEntries (List.append_nil _).symm)

/-- A verb is looked up as the command that was registered last for it. -/
theorem find?_commands (verb : String) :
    (ofRegistrations blank greeting registrations).commands.find? verb =
      (Registration.commandsFor verb registrations).getLast? := by
  rw [commands_ofRegistrations, Registry.find?_ofEntries, Registration.commandsFor]

/-- A topic is looked up as the help that was registered last for it. -/
theorem find?_help (topic : String) :
    (ofRegistrations blank greeting registrations).help.find? topic =
      (Registration.helpFor topic registrations).getLast? := by
  rw [help_ofRegistrations, Registry.find?_ofEntries, Registration.helpFor]

theorem mem_names_commands (verb : String) :
    verb ∈ (ofRegistrations blank greeting registrations).commands.names ↔
      Registration.HasCommand registrations verb := by
  rw [commands_ofRegistrations, Registry.mem_names_ofEntries, ← Registration.commandsFor,
    Registration.commandsFor_ne_nil_iff]

/-! ### Reserved verbs -/

/-- The two blueprints make the same conversations: they differ in nothing but the commands, and
there in nothing that a conversation makes use of. -/
structure Alike (first second : Blueprint σ) : Prop where
  rest : ∃ commands, second = { first with commands := commands }
  verbs : Conversation.verbs first = Conversation.verbs second
  commands : ∀ verb ∉ ["NOP", "OPTION", "BYE", "HELP"],
    first.commands.find? verb = second.commands.find? verb

variable {blank greeting registrations}

theorem Alike.ofCommand_eq {first second : Blueprint σ} (h : first.Alike second) (line : Line) :
    Action.ofCommand first line = Action.ofCommand second line := by
  obtain ⟨⟨commands, rfl⟩, hverbs, hcommands⟩ := h
  have hreset := hcommands "RESET" (by decide)
  simp only at hreset hcommands
  rw [Action.ofCommand, Action.ofCommand]
  cases line.text? with
  | none => rfl
  | some parameters =>
    simp only [Action.ofText]
    split_ifs with hnop hbye hverb hoption hhelp
    · rfl
    · rfl
    · rw [hreset]
    · rfl
    · rw [Action.ofTopic, Action.ofTopic, hverbs]
    · rw [hcommands line.verb (by simp [hnop, hbye, hoption, hhelp])]

theorem Alike.dispatch_eq {first second : Blueprint σ} (h : first.Alike second)
    (conversation : Conversation σ) (line : Line) :
    conversation.dispatch first line = conversation.dispatch second line := by
  rw [Conversation.dispatch_eq_conduct, Conversation.dispatch_eq_conduct, h.ofCommand_eq]

theorem Alike.takeCommands_eq {first second : Blueprint σ} (h : first.Alike second)
    (conversation : Conversation σ) :
    conversation.takeCommands first = conversation.takeCommands second := by
  fun_induction Conversation.takeCommands first conversation with
  | case1 conversation hready line reader hread ih =>
    rw [Conversation.takeCommands_of_reads second hready hread, ← h.dispatch_eq]
    exact ih
  | case2 conversation hready cause reader hread =>
    rw [Conversation.takeCommands_of_unread second hready hread]
  | case3 conversation hready reader hread =>
    rw [Conversation.takeCommands_of_unfinished second hready hread, Conversation.withReader]
  | case4 conversation hready => rw [Conversation.takeCommands_of_not_ready second hready]

theorem Alike.advance_eq {first second : Blueprint σ} (h : first.Alike second)
    (conversation : Conversation σ) :
    conversation.advance first = conversation.advance second :=
  h.takeCommands_eq conversation.answerPending

theorem Alike.serve_eq {first second : Blueprint σ} (h : first.Alike second) (wire : Wire) :
    Conversation.serve first wire = Conversation.serve second wire := by
  obtain ⟨commands, hsecond⟩ := h.rest
  have hgreet : Conversation.greet first wire = Conversation.greet second wire := by
    rw [hsecond]
    rfl
  rw [Conversation.serve, Conversation.serve, h.advance_eq, hgreet]

/-- Commands for reserved verbs change nothing but the commands. -/
theorem ofRegistrations_filter (blank : σ) (greeting : String)
    (registrations : List (Registration σ)) :
    ∃ commands, ofRegistrations blank greeting registrations =
      { ofRegistrations blank greeting (registrations.filter (!·.isReserved)) with
        commands := commands } := by
  induction registrations using List.reverseRecOn with
  | nil => exact ⟨_, rfl⟩
  | append_singleton earlier last ih =>
    obtain ⟨commands, hcommands⟩ := ih
    rw [ofRegistrations_concat, hcommands, List.filter_append]
    by_cases hreserved : last.isReserved = true
    · have hnone : [last].filter (!·.isReserved) = [] := by simp [hreserved]
      rw [hnone, List.append_nil]
      cases last with
      | command verb handler => exact ⟨_, rfl⟩
      | _ => exact absurd hreserved Bool.false_ne_true
    · have hsome : [last].filter (!·.isReserved) = [last] := by simp [hreserved]
      rw [hsome, ofRegistrations_concat]
      cases last <;> exact ⟨_, rfl⟩

theorem alike_without_reserved (blank : σ) (greeting : String)
    (registrations : List (Registration σ)) :
    (ofRegistrations blank greeting (registrations.filter (!·.isReserved))).Alike
      (ofRegistrations blank greeting registrations) := by
  have hfind : ∀ verb ∉ ["NOP", "OPTION", "BYE", "HELP"],
      (ofRegistrations blank greeting (registrations.filter (!·.isReserved))).commands.find? verb =
        (ofRegistrations blank greeting registrations).commands.find? verb := by
    intro verb hverb
    rw [find?_commands, find?_commands, Registration.commandsFor_filter hverb]
  refine ⟨ofRegistrations_filter blank greeting registrations, ?_, hfind⟩
  have hincreasing : ∀ registry : Registry (Command σ),
      (registry.names.filter fun verb ↦ !Conversation.builtins.contains verb).Pairwise (· < ·) :=
    fun registry ↦ registry.increasing_names.filter _
  refine congrArg (Conversation.builtins ++ ·) ?_
  refine List.Pairwise.eq_of_mem_iff (hincreasing _) (hincreasing _) fun verb ↦ ?_
  rw [List.mem_filter, List.mem_filter, Registry.mem_names_iff, Registry.mem_names_iff]
  refine and_congr_left fun hcustom ↦ ?_
  have hverb : verb ∉ ["NOP", "OPTION", "BYE", "HELP"] := by
    simp [Conversation.builtins] at hcustom ⊢
    tauto
  rw [hfind verb hverb]

end Blueprint

end LineProtocol
