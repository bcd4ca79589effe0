import LineProtocol.Proofs.Client.Overhearing
import LineProtocol.Proofs.Exchange.Resets

/-!
# Notices make no difference to a client

What a client hears, returns and writes does not depend on the comments and status lines that the
handlers write, whatever they say and wherever in a handler they stand. Two exchanges go on side by
side, with the handlers as they are and with handlers that leave notices out; `Exchange.Thins` says
that their clients and conversations stand at the same place and that the lines on their way to the
client are the same, thinned. Every event of the one has its counterpart in the other, which may
hand over fewer lines (`Thins.exists_step`, `Thins.exists_step'`), so the two clients look alike
after every event (`views_without`).

The status line of no keyword and no text is the exception. The reader does not skip it, and a
client that resets the state takes it for the answer (`misled_of_bare`). As long as no reset has
been misled it makes no difference either.
-/

set_option autoImplicit false

namespace LineProtocol

variable {σ : Type} {bares : Prop} {drops : Notice → Bool}

/-! ### More to read -/

namespace LineReader

variable {loud quiet : LineReader} {lines lines' : List Line}

theorem Thins.push (h : loud.Thins bares quiet) (hlines : Line.Thinned bares lines lines') :
    Thins bares { loud with inlet := loud.inlet.push (Inlet.carried (lines.map Line.octets)) }
      { quiet with inlet := quiet.inlet.push (Inlet.carried (lines'.map Line.octets)) } := by
  cases h with
  | facing ended h =>
    rw [push_facing, push_facing]
    exact .facing ended (h.append hlines)
  | spent inlet inlet' => exact .spent _ _

theorem Thins.finish (h : loud.Thins bares quiet) :
    Thins bares { loud with inlet := loud.inlet.finish }
      { quiet with inlet := quiet.inlet.finish } := by
  cases h with
  | facing ended h => exact .facing true h
  | spent inlet inlet' => exact .spent _ _

end LineReader

namespace Client

variable {loud quiet : Client} {lines lines' : List Line}

theorem Thins.receive (h : loud.Thins bares quiet) (hlines : Line.Thinned bares lines lines') :
    (loud.receive (Inlet.carried (lines.map Line.octets))).Thins bares
      (quiet.receive (Inlet.carried (lines'.map Line.octets))) := by
  obtain ⟨reader, rfl, hthins⟩ := h
  exact ⟨_, rfl, hthins.push hlines⟩

theorem Thins.finish (h : loud.Thins bares quiet) : loud.finish.Thins bares quiet.finish := by
  obtain ⟨reader, rfl, hthins⟩ := h
  exact ⟨_, rfl, hthins.finish⟩

theorem Thins.broken (h : loud.Thins bares quiet) (cause : IoError) :
    (loud.broken cause).Thins bares (quiet.broken cause) := by
  obtain ⟨reader, rfl, hthins⟩ := h
  exact ⟨reader, rfl, hthins⟩

end Client

/-! ### Two exchanges -/

namespace Exchange

/-- The second exchange stands where the first one stands, and its client has the same before it,
thinned. -/
structure Thins (bares : Prop) (drops : Notice → Bool) (loud quiet : Exchange σ) : Prop where
  client : loud.client.Thins bares quiet.client
  turn : quiet.turn = loud.turn
  server : loud.server.Thins bares drops quiet.server
  gone : quiet.gone = loud.gone

/-- Two events that differ at most in how many lines are handed over to the client. -/
inductive Event.Alike : Event → Event → Prop
  | same (event : Event) : Alike event event
  | handed (count count' : Nat) : Alike (.move (.toClient count)) (.move (.toClient count'))

/-- A client that waits for a single line does not have a bare status line before it. -/
def Undeceived (exchange : Exchange σ) : Prop :=
  ∀ awaiting, exchange.turn = .waiting awaiting → awaiting.Single →
    ∀ rest, exchange.client.wire.reader.readLine ≠ (.value .bare, rest)

variable {loud quiet : Exchange σ} (blueprint : Blueprint σ)

theorem thins_start (bares : Prop) (drops : Notice → Bool) (gone : IoError) :
    (start blueprint gone).Thins bares drops (start (blueprint.without drops) gone) where
  client := ⟨.facing false [], rfl, .facing false .nil⟩
  turn := rfl
  server := Conversation.thins_greet bares drops blueprint
  gone := rfl

theorem Thins.toServer (h : loud.Thins bares drops quiet) (count : Nat) :
    (loud.move blueprint (.toServer count)).Thins bares drops
      (quiet.move (blueprint.without drops) (.toServer count)) := by
  obtain ⟨reader, hclient, hthins⟩ := h.client
  refine ⟨⟨reader, ?_, hthins⟩, h.turn, ⟨⟨?_, h.server.wire.outlet⟩, h.server.state,
    h.server.phase, h.server.calls⟩, h.gone⟩
  · simp only [move, hclient]
    rfl
  · simp only [move, hclient, Conversation.receive, Wire.receive, h.server.wire.reader]
    rfl

theorem Thins.server_move (hdrops : Notice.Omissible bares drops)
    (h : loud.Thins bares drops quiet) :
    (loud.move blueprint .server).Thins bares drops
      (quiet.move (blueprint.without drops) .server) :=
  ⟨h.client, h.turn, h.server.advance hdrops blueprint, h.gone⟩

theorem Thins.client_move (h : loud.Thins bares drops quiet)
    (hfree : bares → loud.Undeceived) :
    (loud.move blueprint .client).Thins bares drops
      (quiet.move (blueprint.without drops) .client) := by
  obtain ⟨hturn, hclient⟩ := h.client.advance hfree
  refine ⟨?_, ?_, h.server, h.gone⟩
  · simp only [move, h.turn]
    exact hclient
  · simp only [move, h.turn]
    exact hturn

/-- What has been written may be handed over in portions. -/
theorem Thins.toClient {lines lines' : List Line} {count count' : Nat}
    (h : loud.Thins bares drops quiet)
    (hloud : loud.server.wire.outlet = .holding lines)
    (hquiet : quiet.server.wire.outlet = .holding lines')
    (hfirst : Line.Thinned bares (lines.take count) (lines'.take count'))
    (hrest : Line.Thinned bares (lines.drop count) (lines'.drop count')) :
    (loud.move blueprint (.toClient count)).Thins bares drops
      (quiet.move (blueprint.without drops) (.toClient count')) := by
  have hwritten : ∀ (row : List Line) (portion : Nat),
      (Outlet.holding row).written.take portion = (row.take portion).map Line.octets :=
    fun row portion ↦ List.map_take.symm
  have hheld : ∀ (row : List Line) (portion : Nat),
      { Outlet.holding row with written := (Outlet.holding row).written.drop portion } =
        Outlet.holding (row.drop portion) := fun row portion ↦ by
    rw [Outlet.holding, Outlet.holding, List.map_drop]
  refine ⟨?_, h.turn, ⟨⟨h.server.wire.reader, ?_⟩, h.server.state, h.server.phase,
    h.server.calls⟩, h.gone⟩
  · simp only [move, hloud, hquiet, hwritten]
    exact h.client.receive hfirst
  · simp only [move, Wire.relieved, hloud, hquiet, hheld]
    exact ⟨_, _, hrest, rfl, rfl⟩

theorem Thins.drop_move (h : loud.Thins bares drops quiet) :
    (loud.move blueprint .drop).Thins bares drops
      (quiet.move (blueprint.without drops) .drop) := by
  simp only [move, h.server.isOver, h.gone]
  split
  · obtain ⟨lines, lines', hthinned, hloud, hquiet⟩ := h.server.wire.outlet
    refine ⟨?_, h.turn, ⟨⟨h.server.wire.reader, ?_⟩, h.server.state, h.server.phase,
      h.server.calls⟩, rfl⟩
    · simp only [arriving, hloud, hquiet]
      exact ((h.client.receive hthinned).finish).broken loud.gone
    · simp only [Conversation.emptied, Wire.emptied, hloud, hquiet]
      exact ⟨[], [], .nil, rfl, rfl⟩
  · exact h

theorem Thins.request (h : loud.Thins bares drops quiet) (request : Request) :
    (loud.step blueprint (.request request)).Thins bares drops
      (quiet.step (blueprint.without drops) (.request request)) := by
  simp only [step, h.turn]
  cases loud.turn with
  | waiting awaiting => exact h
  | returned outcome =>
    obtain ⟨hturn, hclient⟩ := h.client.ask request
    exact ⟨hclient, hturn, h.server, h.gone⟩

/-- But for lines that are handed over, an event is its own counterpart. -/
theorem Thins.step_same (hdrops : Notice.Omissible bares drops)
    (h : loud.Thins bares drops quiet) {event : Event}
    (hfree : bares → event = .move .client → loud.Undeceived)
    (hother : ¬∃ count, event = .move (.toClient count)) :
    (loud.step blueprint event).Thins bares drops
      (quiet.step (blueprint.without drops) event) := by
  cases event with
  | request request => exact h.request blueprint request
  | move next =>
    cases next with
    | toServer count => exact h.toServer blueprint count
    | server => exact h.server_move blueprint hdrops
    | client => exact h.client_move blueprint fun hbares ↦ hfree hbares rfl
    | drop => exact h.drop_move blueprint
    | toClient count => exact absurd ⟨count, rfl⟩ hother

/-- Every event has its counterpart without the notices. -/
theorem Thins.exists_step (hdrops : Notice.Omissible bares drops)
    (h : loud.Thins bares drops quiet) (event : Event)
    (hfree : bares → event = .move .client → loud.Undeceived) :
    ∃ event', event.Alike event' ∧
      (loud.step blueprint event).Thins bares drops
        (quiet.step (blueprint.without drops) event') := by
  by_cases hhanded : ∃ count, event = .move (.toClient count)
  · obtain ⟨count, rfl⟩ := hhanded
    obtain ⟨lines, lines', hthinned, hloud, hquiet⟩ := h.server.wire.outlet
    obtain ⟨count', hfirst, hrest⟩ := hthinned.exists_split count
    exact ⟨_, .handed count count', h.toClient blueprint hloud hquiet hfirst hrest⟩
  · exact ⟨event, .same event, h.step_same blueprint hdrops hfree hhanded⟩

/-- And every event without the notices has its counterpart with them. -/
theorem Thins.exists_step' (hdrops : Notice.Omissible bares drops)
    (h : loud.Thins bares drops quiet) (event' : Event)
    (hfree : bares → event' = .move .client → loud.Undeceived) :
    ∃ event : Event, event.Alike event' ∧
      (loud.step blueprint event).Thins bares drops
        (quiet.step (blueprint.without drops) event') := by
  by_cases hhanded : ∃ count, event' = .move (.toClient count)
  · obtain ⟨count', rfl⟩ := hhanded
    obtain ⟨lines, lines', hthinned, hloud, hquiet⟩ := h.server.wire.outlet
    obtain ⟨count, hfirst, hrest⟩ := hthinned.exists_split' count'
    exact ⟨_, .handed count count', h.toClient blueprint hloud hquiet hfirst hrest⟩
  · exact ⟨event', .same event', h.step_same blueprint hdrops hfree hhanded⟩

/-! ### Bare status lines -/

variable {terms : Terms}

/-- What a client reads that has at most a closing line before it. -/
theorem Draining.isClosing {reader rest : LineReader} {inbox outbox : List Line} {line : Line}
    (h : Draining reader inbox outbox) (hlines : ∀ found ∈ inbox ++ outbox, found.IsClosing)
    (hread : reader.readLine = (.value line, rest)) : line.IsClosing := by
  have hinbox : ∀ found ∈ inbox, found.IsClosing := fun found hmem ↦
    hlines found (List.mem_append_left _ hmem)
  have hfacing : ∀ ended, (LineReader.facing ended inbox).readLine = (.value line, rest) →
      line.IsClosing := by
    intro ended hread
    cases inbox with
    | nil =>
      cases ended with
      | false => cases LineReader.readLine_facing_nil.symm.trans hread
      | true => cases LineReader.readLine_facing_end.symm.trans hread
    | cons first later =>
      have hfirst := hinbox first List.mem_cons_self
      rw [LineReader.readLine_facing_of_tells ended later hfirst.1 hfirst.tells] at hread
      obtain rfl := Reading.value.inj (Prod.mk.inj hread).1
      exact hfirst
  cases h with
  | opened => exact hfacing false hread
  | ended => exact hfacing true hread
  | spent => cases LineReader.readLine_spent.symm.trans hread

/-- A conversation that is over has left no more than a closing line to a client that takes no
more. -/
theorem Parting.isClosing {turn : Turn} {left : List Line} (h : Parting terms turn left)
    (hshort : ∀ awaiting, turn = .waiting awaiting → ¬terms.TakesMore awaiting) :
    ∀ line ∈ left, line.IsClosing := by
  cases h with
  | silent inner hinner hterse =>
    rcases hterse with rfl | ⟨awaiting, hwaiting, htakes⟩
    · exact List.forall_mem_nil _
    · exact absurd htakes (hshort awaiting hwaiting)
  | closing awaiting inner closing hwaiting hinner hclosing hterse =>
    obtain rfl := hterse.resolve_left (hshort awaiting hwaiting)
    exact List.forall_mem_singleton.2 hclosing

/-- Neither has one that is in touch with it. -/
theorem InTouch.isClosing {phase : Phase σ} {turn : Turn} {toServer toClient : List Line}
    (h : InTouch terms phase turn toServer toClient)
    (hshort : ∀ awaiting, turn = .waiting awaiting → ¬terms.TakesMore awaiting) :
    ∀ line ∈ toClient, line.IsClosing := by
  cases h with
  | replied awaiting inner closing hphase hwaiting hinner hclosing hterse =>
    obtain rfl := hterse.resolve_left (hshort awaiting hwaiting)
    exact List.forall_mem_singleton.2 hclosing
  | inquired awaiting pending inner inquiry hphase hwaiting hinner hinquiry htakes =>
    exact absurd htakes (hshort awaiting hwaiting)
  | _ => exact List.forall_mem_nil _

theorem Attuned.isClosing (h : loud.Attuned terms) {awaiting : Awaiting}
    (hturn : loud.turn = .waiting awaiting) (hshort : ¬terms.TakesMore awaiting)
    {line : Line} {rest : LineReader}
    (hread : loud.client.wire.reader.readLine = (.value line, rest)) : line.IsClosing := by
  have hshort' : ∀ other, loud.turn = .waiting other → ¬terms.TakesMore other := by
    intro other hother
    rwa [← Turn.waiting.inj (hturn.symm.trans hother)]
  rcases h with ⟨inbox, outbox, hparted⟩ |
    ⟨serverInbox, clientOutbox, clientInbox, serverOutbox, hlinked, htouch⟩
  · exact hparted.draining.isClosing (hparted.parting.isClosing hshort') hread
  · have hdraining : Draining loud.client.wire.reader clientInbox serverOutbox := by
      rw [hlinked.client]
      exact .opened _ _
    exact hdraining.isClosing (htouch.isClosing hshort') hread

/-- Only a reset can take a bare status line for its answer. -/
theorem Attuned.undeceived (h : loud.Attuned Terms.anything)
    (hheard : ¬(loud.move blueprint .client).Misled) : loud.Undeceived := by
  intro awaiting hturn hsingle rest hread
  by_cases hreset : awaiting = .resetReply
  · subst hreset
    refine hheard ⟨"S", ?_⟩
    simp only [move, hturn]
    rw [Client.advance_of_value .resetReply hread]
    exact congrArg Prod.fst (Client.advance_returned _ _)
  · have hshort : ¬Terms.anything.TakesMore awaiting := by
      cases awaiting with
      | resetReply => exact absurd rfl hreset
      | reply collected answers => exact hsingle.elim
      | cancelReply reason => exact hsingle.elim
      | _ => exact id
    rcases (h.isClosing hturn hshort hread).2 with hverb | hverb
    · exact absurd hverb (by decide)
    · exact absurd hverb (by decide)

/-! ### Whole histories -/

/-- What can be seen of a client: how its last request stands, what it was greeted with, and what it
has written that has not been handed over. -/
structure View where
  turn : Turn
  greeting : String
  outlet : Outlet

def view (exchange : Exchange σ) : View :=
  ⟨exchange.turn, exchange.client.greeting, exchange.client.wire.outlet⟩

/-- What can be seen of the client from the start on, after each event. -/
def views (exchange : Exchange σ) : List Event → List View
  | [] => [exchange.view]
  | event :: later => exchange.view :: (exchange.step blueprint event).views later

variable {blueprint}

theorem Thins.view (h : loud.Thins bares drops quiet) : quiet.view = loud.view := by
  obtain ⟨reader, hclient, -⟩ := h.client
  rw [Exchange.view, Exchange.view, h.turn, hclient]
  rfl

/-- A client that is not misled stays in touch with the conversation. -/
theorem attuned_step_of_heard (h : loud.Attuned Terms.anything) {event : Event}
    (hheard : ¬(loud.step blueprint event).Misled) :
    (loud.step blueprint event).Attuned Terms.anything :=
  have hmet : Terms.anything.Met blueprint := ⟨fun _ ↦ .inl trivial, .inl trivial⟩
  (attuned_step blueprint hmet h event fun _ _ ↦ trivial).resolve_left
    fun hmisled ↦ hheard hmisled.2

/-- Every history has its counterpart without the notices. -/
theorem Thins.exists_views (hdrops : Notice.Omissible bares drops)
    (h : loud.Thins bares drops quiet) (hattuned : bares → loud.Attuned Terms.anything)
    {events : List Event}
    (hheard : bares → ∀ before, before <+: events → ¬(loud.after blueprint before).Misled) :
    ∃ quieter, List.Forall₂ Event.Alike events quieter ∧
      quiet.views (blueprint.without drops) quieter = loud.views blueprint events := by
  induction events generalizing loud quiet with
  | nil => exact ⟨[], .nil, congrArg (fun view ↦ [view]) h.view⟩
  | cons event later ih =>
    have hnext : bares → ¬(loud.step blueprint event).Misled := fun hbares ↦
      hheard hbares [event] (List.cons_prefix_cons.2 ⟨rfl, List.nil_prefix⟩)
    have hfree : bares → event = .move .client → loud.Undeceived := by
      rintro hbares rfl
      exact (hattuned hbares).undeceived blueprint (hnext hbares)
    obtain ⟨event', halike, hstep⟩ := h.exists_step blueprint hdrops event hfree
    obtain ⟨quieter, hlater, hviews⟩ := ih hstep
      (fun hbares ↦ attuned_step_of_heard (hattuned hbares) (hnext hbares))
      fun hbares before hbefore ↦
        hheard hbares (event :: before) (List.cons_prefix_cons.2 ⟨rfl, hbefore⟩)
    exact ⟨event' :: quieter, .cons halike hlater, congrArg₂ List.cons h.view hviews⟩

/-- Every history without the notices has its counterpart with them. -/
theorem Thins.exists_views' (hdrops : Notice.Omissible bares drops)
    (h : loud.Thins bares drops quiet) (hattuned : bares → loud.Attuned Terms.anything)
    (hheard : bares → ∀ events, ¬(loud.after blueprint events).Misled) (quieter : List Event) :
    ∃ events, List.Forall₂ Event.Alike events quieter ∧
      quiet.views (blueprint.without drops) quieter = loud.views blueprint events := by
  induction quieter generalizing loud quiet with
  | nil => exact ⟨[], .nil, congrArg (fun view ↦ [view]) h.view⟩
  | cons event' later ih =>
    have hfree : bares → loud.Undeceived := fun hbares ↦
      (hattuned hbares).undeceived blueprint (hheard hbares [.move .client])
    obtain ⟨event, halike, hstep⟩ :=
      h.exists_step' blueprint hdrops event' fun hbares _ ↦ hfree hbares
    obtain ⟨events, hlater, hviews⟩ := ih hstep
      (fun hbares ↦ attuned_step_of_heard (hattuned hbares) (hheard hbares [event]))
      fun hbares rest ↦ hheard hbares (event :: rest)
    exact ⟨event :: events, .cons halike hlater, congrArg₂ List.cons h.view hviews⟩

/-- Handlers may leave out any of the comments and status lines that they can write: every history
with them has its counterpart without them, and the other way round, in which the client returns
the same and writes the same at every moment. If bare status lines are among them this holds as
long as no reset has taken one for its answer, or anything else that its handler sent. -/
theorem views_without (blueprint : Blueprint σ) {drops : Notice → Bool}
    (hdrops : ∀ notice, drops notice = true → notice.succeeds = true) (gone : IoError) :
    let quiet := blueprint.without drops
    let bares := drops (.status "" "") = true
    (∀ events,
        (bares → ∀ before, before <+: events →
          ¬((start blueprint gone).after blueprint before).Misled) →
        ∃ quieter, List.Forall₂ Event.Alike events quieter ∧
          (start quiet gone).views quiet quieter = (start blueprint gone).views blueprint events) ∧
      ((bares → ∀ events, ¬((start blueprint gone).after blueprint events).Misled) →
        ∀ quieter, ∃ events, List.Forall₂ Event.Alike events quieter ∧
          (start quiet gone).views quiet quieter =
            (start blueprint gone).views blueprint events) := by
  intro quiet bares
  have homissible : Notice.Omissible bares drops := fun notice hdrop ↦
    ⟨hdrops notice hdrop, fun hbare ↦ by rwa [hbare] at hdrop⟩
  have hthins : (start blueprint gone).Thins bares drops (start quiet gone) :=
    thins_start blueprint bares drops gone
  have hattuned : bares → (start blueprint gone).Attuned Terms.anything := fun _ ↦
    attuned_start blueprint Terms.anything gone
  exact ⟨fun events hheard ↦ hthins.exists_views homissible hattuned hheard,
    hthins.exists_views' homissible hattuned⟩

/-- A reset that reports its progress does not have to. -/
theorem views_without_of_progress :
    let blueprint := resetting (.status "PROGRESS" "half" fun _ ↦ .comment "" fun _ ↦ .done ())
    let drops : Notice → Bool := fun notice ↦ notice.succeeds && notice != .status "" ""
    let quiet := blueprint.without drops
    let gone : IoError := ⟨.brokenPipe, "gone"⟩
    let events := resetOnce ++ [.move (.toClient 1), .move .client]
    (∀ notice, drops notice = true → notice.succeeds = true) ∧
      drops (.status "PROGRESS" "half") = true ∧ drops (.comment "") = true ∧
      ((start blueprint gone).after blueprint events).outcome? = some (.ok []) ∧
      ∃ quieter, List.Forall₂ Event.Alike events quieter ∧
        (start quiet gone).views quiet quieter =
          (start blueprint gone).views blueprint events := by
  intro blueprint drops quiet gone events
  have hdrops : ∀ notice, drops notice = true → notice.succeeds = true := fun notice hdrop ↦
    (Bool.and_eq_true_iff.1 hdrop).1
  have hspared : drops (.status "" "") = false := by decide +kernel
  obtain ⟨hviews, -⟩ := views_without blueprint hdrops gone
  refine ⟨hdrops, by decide +kernel, by decide +kernel, by decide +kernel,
    hviews events fun hbare ↦ ?_⟩
  exact absurd hbare (by rw [hspared]; exact Bool.false_ne_true)

/-- A bare status line is not skipped: a reset that is sent one returns that it was misled, and
leaves the closing line of its reply to the next request. Without it the reset returns well. -/
theorem misled_of_bare :
    let blueprint := resetting (.status "" "" fun _ ↦ .done ())
    let quiet := blueprint.without Notice.succeeds
    let gone : IoError := ⟨.brokenPipe, "gone"⟩
    let exchange := (start blueprint gone).after blueprint resetOnce
    let quieter := (start quiet gone).after quiet resetOnce
    (Notice.status "" "").succeeds = true ∧
      exchange.outcome? = some (.error (.invalidResponse "not an OK response: S")) ∧
      exchange.inTransit = Utf8.encode "OK\n" ∧
      quieter.outcome? = some (.ok []) ∧ quieter.inTransit = [] := by
  decide +kernel

end Exchange

end LineProtocol
