/-
Several clients declaring on one broker at once.

Each client has a list of commands and sends them one at a time, between those of the
others. A client whose command is refused sends nothing more, or goes on with the next, as
the client is; what it had declared stays.
Two questions are asked of the lists: whether some order of sending gets a client refused,
and what the broker routes when all clients are through.

The awkward thing is that the broker keeps lists, and the lists do depend on the order. So
everything below is said of a broker through the commands that *stand* on it, those that
would find what they ask for there already. Three facts about one accepted command carry
the file: it stands afterwards, whatever stood still stands, and nothing else does. What
stands is also all that routing looks at.
-/
import TradeLogistics.AmqpBroker
import TradeLogistics.Runs
import Mathlib.Data.Finite.Defs
import Mathlib.Data.Fintype.EquivFin

set_option autoImplicit false

namespace TradeLogistics.Amqp

open TradeLogistics.Runs

/-! ## 1. Commands that stand -/

/-- Two commands that no broker can have accepted both: one name, declared two ways. -/
def Command.Agrees : Command → Command → Prop
  | .declare_exchange name type, .declare_exchange name' type' => name = name' → type = type'
  | .declare_queue name arguments, .declare_queue name' arguments' =>
    name = name' → arguments = arguments'
  | _, _ => True

namespace Broker

/-- What the command asks for is there. -/
def Standing (b : Broker) : Command → Prop
  | .declare_exchange name type => b.exchange_type name = some type
  | .declare_queue name arguments => b.arguments name = some arguments
  | .bind binding => binding ∈ b.bindings

theorem standing_agrees {b : Broker} {command other : Command} (h : b.Standing command)
    (hother : b.Standing other) : command.Agrees other := by
  cases command with
  | declare_exchange name type =>
      cases other with
      | declare_exchange name' type' =>
          intro hname
          rw [Standing, hname] at h
          exact Option.some.inj (h.symm.trans hother)
      | declare_queue name' arguments' => exact trivial
      | bind binding => exact trivial
  | declare_queue name arguments =>
      cases other with
      | declare_exchange name' type' => exact trivial
      | declare_queue name' arguments' =>
          intro hname
          rw [Standing, hname] at h
          exact Option.some.inj (h.symm.trans hother)
      | bind binding => exact trivial
  | bind binding => exact trivial

/-- Whatever stood still stands. -/
theorem obey_keeps {b b' : Broker} {command other : Command} (h : b.obey command = some b')
    (hother : b.Standing other) : b'.Standing other := by
  obtain ⟨htypes, harguments, hbindings⟩ := obey_declared h
  cases other with
  | declare_exchange name type =>
      rw [Standing] at hother ⊢
      rw [htypes, hother, Option.some_or]
  | declare_queue name arguments =>
      rw [Standing] at hother ⊢
      rw [harguments, hother, Option.some_or]
  | bind binding =>
      rw [Standing, hbindings]
      exact List.mem_append_left _ hother

/-- A command that was accepted is new, or found what it asks for. -/
theorem obey_needed {b b' : Broker} {command : Command} (h : b.obey command = some b') :
    Allowed b.exchange_type b.arguments command := by
  cases command with
  | declare_exchange name type =>
      rw [obey] at h
      cases htype : b.exchange_type name with
      | none => exact .inl htype
      | some declared =>
          right
          by_contra hother
          have hne : declared ≠ type := by
            rintro rfl
            exact hother htype
          simp [htype, hne] at h
  | declare_queue name arguments =>
      rw [obey] at h
      cases hdeclared : b.arguments name with
      | none => exact .inl hdeclared
      | some declared =>
          right
          by_contra hother
          have hne : declared ≠ arguments := by
            rintro rfl
            exact hother hdeclared
          simp [hdeclared, hne] at h
  | bind binding =>
      rw [obey] at h
      by_contra hother
      rw [Allowed, ← Bool.and_eq_true] at hother
      simp [hother] at h

/-- An accepted command stands. -/
theorem obey_stands {b b' : Broker} {command : Command} (h : b.obey command = some b') :
    b'.Standing command := by
  obtain ⟨htypes, harguments, hbindings⟩ := obey_declared h
  have hneeded := obey_needed h
  cases command with
  | declare_exchange name type =>
      rw [Standing, htypes, Command.type_of, if_pos rfl]
      rcases hneeded with hnew | hsame
      · rw [hnew, Option.none_or]
      · rw [hsame, Option.some_or]
  | declare_queue name arguments =>
      rw [Standing, harguments, Command.arguments_of, if_pos rfl]
      rcases hneeded with hnew | hsame
      · rw [hnew, Option.none_or]
      · rw [hsame, Option.some_or]
  | bind binding =>
      rw [Standing, hbindings]
      exact List.mem_append_right _ (by simp [Command.binding])

/-- Nothing else does. -/
theorem obey_only {b b' : Broker} {command other : Command} (h : b.obey command = some b')
    (hother : b'.Standing other) : b.Standing other ∨ other = command := by
  obtain ⟨htypes, harguments, hbindings⟩ := obey_declared h
  cases other with
  | declare_exchange name type =>
      rw [Standing, htypes] at hother
      cases htype : b.exchange_type name with
      | some declared =>
          rw [htype, Option.some_or] at hother
          exact .inl (htype.trans hother)
      | none =>
          -- it is new, so the command declared it
          rw [htype, Option.none_or] at hother
          right
          cases command with
          | declare_exchange name' type' =>
              rw [Command.type_of, Option.ite_none_right_eq_some, Option.some.injEq] at hother
              rw [hother.1, hother.2]
          | declare_queue name' arguments' => simp [Command.type_of] at hother
          | bind binding => simp [Command.type_of] at hother
  | declare_queue name arguments =>
      rw [Standing, harguments] at hother
      cases hdeclared : b.arguments name with
      | some declared =>
          rw [hdeclared, Option.some_or] at hother
          exact .inl (hdeclared.trans hother)
      | none =>
          rw [hdeclared, Option.none_or] at hother
          right
          cases command with
          | declare_exchange name' type' => simp [Command.arguments_of] at hother
          | declare_queue name' arguments' =>
              rw [Command.arguments_of, Option.ite_none_right_eq_some,
                Option.some.injEq] at hother
              rw [hother.1, hother.2]
          | bind binding => simp [Command.arguments_of] at hother
  | bind binding =>
      rw [Standing, hbindings, List.mem_append] at hother
      rcases hother with hold | hnew
      · exact .inl hold
      · right
        cases command with
        | declare_exchange name' type' => simp [Command.binding] at hnew
        | declare_queue name' arguments' => simp [Command.binding] at hnew
        | bind binding' =>
            simp only [Command.binding, Option.toList_some, List.mem_singleton] at hnew
            rw [hnew]

/-- On a broker nothing is declared on, nothing stands. -/
theorem empty_standing (command : Command) : ¬ empty.Standing command := by
  cases command with
  | declare_exchange name type => simp [Standing, empty, exchange_type]
  | declare_queue name declared => simp [Standing, empty, arguments]
  | bind binding => simp [Standing, empty]

/-! ## 2. What routing looks at -/

theorem mem_route_standing {b : Broker} {exchange routing_key queue : String} :
    queue ∈ b.route exchange routing_key ↔ ∃ type, b.Standing (.declare_exchange exchange type)
      ∧ ∃ binding, b.Standing (.bind binding) ∧ binding.exchange = exchange
        ∧ type.takes binding.binding_key routing_key = true ∧ binding.queue = queue := by
  cases htype : b.exchange_type exchange with
  | none => simp [route, htype, Standing]
  | some type =>
      rw [mem_route htype]
      constructor
      · rintro ⟨binding, hbinding, hrest⟩
        exact ⟨type, htype, binding, hbinding, hrest⟩
      · rintro ⟨type', htype', binding, hbinding, hrest⟩
        have hsame : type = type' := Option.some.inj (htype.symm.trans htype')
        subst hsame
        exact ⟨binding, hbinding, hrest⟩

theorem mem_expired_standing {b : Broker} {queue reached : String} :
    reached ∈ b.expired queue ↔ ∃ pair, b.Standing (.declare_queue queue (some pair))
      ∧ reached ∈ b.route pair.exchange pair.routing_key := by
  rw [expired]
  cases hqueue : b.arguments queue with
  | none => simp [Standing, hqueue]
  | some declared =>
      cases declared with
      | none => simp [Standing, hqueue]
      | some pair => simp [Standing, hqueue]

end Broker

/-! ## 3. Clients -/

/-- What a client still has to send, and whether it was refused. -/
structure Client where
  left : List Command
  refused : Bool

/-- The client is through: it was never refused and has nothing left to send. -/
def Client.Up (client : Client) : Prop := client = ⟨[], false⟩

/-- A client sends its next command. After the refusal of some commands it goes on, and
after that of others it gives up what it has left. -/
def send {ι : Type} (goes_on : ι → Command → Bool) : Action ι Broker Client Unit := fun i b client _ =>
  match client.left with
  | [] => none
  | command :: left => match b.obey command with
    | some b' => some (b', ⟨left, client.refused⟩)
    | none => some (b, ⟨if goes_on i command then left else [], true⟩)

/-- What sending can do. -/
theorem send_cases {ι : Type} {goes_on : ι → Command → Bool} {i : ι} {b b' : Broker}
    {client client' : Client} {u : Unit} (h : send goes_on i b client u = some (b', client')) :
    ∃ command left, client.left = command :: left
      ∧ ((b.obey command = some b' ∧ client' = ⟨left, client.refused⟩)
        ∨ (b.obey command = none ∧ b' = b
          ∧ client' = ⟨if goes_on i command then left else [], true⟩)) := by
  unfold send at h
  cases hleft : client.left with
  | nil => simp [hleft] at h
  | cons command left =>
      refine ⟨command, left, rfl, ?_⟩
      rw [hleft] at h
      dsimp only at h
      cases hobey : b.obey command with
      | some next =>
          simp only [hobey, Option.some.injEq, Prod.mk.injEq] at h
          exact .inl ⟨congrArg some h.1, h.2.symm⟩
      | none =>
          simp only [hobey, Option.some.injEq, Prod.mk.injEq] at h
          exact .inr ⟨rfl, h.1.symm, h.2.symm⟩

section Clients

variable {ι : Type} (goes_on : ι → Command → Bool) (commands : ι → List Command)

/-- Nothing is declared, and nothing has been sent. -/
def start : Config ι Broker Client := ⟨.empty, fun i => ⟨commands i, false⟩⟩

/-- Everything that stands was asked for by a client. -/
def Asked (b : Broker) : Prop := ∀ command, b.Standing command → ∃ i, command ∈ commands i

/-- What a client has sent stands, if it was never refused. -/
def Sent (b : Broker) (i : ι) (client : Client) : Prop :=
  ∃ sent, commands i = sent ++ client.left
    ∧ (client.refused = false → ∀ command ∈ sent, b.Standing command)

/-- Every order of sending keeps this, whoever is refused. -/
theorem send_outline : Outline (send goes_on) (fun _ _ _ => True) (Asked commands)
    (Sent commands) (fun _ b b' => ∀ command, b.Standing command → b'.Standing command) where
  own := by
    rintro i b client u b' client' hasked ⟨sent, hcommands, hsent⟩ hsend -
    obtain ⟨command, left, hleft, ⟨hobey, rfl⟩ | ⟨-, rfl, rfl⟩⟩ := send_cases hsend
    · rw [hleft] at hcommands
      have hmem : command ∈ commands i := by
        rw [hcommands]
        simp
      refine ⟨fun other hother => ?_, ⟨sent ++ [command], ?_, fun hnever other hother => ?_⟩, ?_⟩
      · rcases Broker.obey_only hobey hother with hold | rfl
        · exact hasked other hold
        · exact ⟨i, hmem⟩
      · rw [hcommands, List.append_assoc]
        rfl
      · rcases List.mem_append.mp hother with hold | hnew
        · exact Broker.obey_keeps hobey (hsent hnever other hold)
        · rw [List.mem_singleton.mp hnew]
          exact Broker.obey_stands hobey
      · exact fun other hother => Broker.obey_keeps hobey hother
    · -- refused, and the broker is as it was
      refine ⟨hasked, ?_, fun _ hother => hother⟩
      rw [hleft] at hcommands
      by_cases hon : goes_on i command = true
      · refine ⟨sent ++ [command], ?_, by simp⟩
        rw [if_pos hon, hcommands, List.append_assoc]
        rfl
      · exact ⟨commands i, by simp [hon], by simp⟩
  stable := by
    rintro i j b b' client - - hgrown ⟨sent, hcommands, hsent⟩
    exact ⟨sent, hcommands, fun hnever command hcommand =>
      hgrown command (hsent hnever command hcommand)⟩

theorem start_holds : Holds (Asked commands) (Sent commands) (start commands) := by
  refine ⟨fun command hstanding => ?_, fun i => ⟨[], rfl, ?_⟩⟩
  · exact absurd hstanding (Broker.empty_standing command)
  · simp

variable {goes_on commands} [DecidableEq ι]

/-- **What stands in a reached state.** Whatever stands was asked for, and what a client
that is through asked for stands. -/
theorem reached_standing {events : List (ι × Unit)} {c : Config ι Broker Client}
    (hrun : run (fire (send goes_on)) (start commands) events = some c) :
    Asked commands c.shared
      ∧ ∀ i, (c.locals i).Up → ∀ command ∈ commands i, c.shared.Standing command := by
  obtain ⟨hasked, hsent⟩ := (send_outline goes_on commands).run (start_holds commands) hrun
  refine ⟨hasked, fun i hup command hcommand => ?_⟩
  obtain ⟨sent, hcommands, hstanding⟩ := hsent i
  rw [hup, List.append_nil] at hcommands
  rw [hcommands] at hcommand
  exact hstanding (by rw [hup]) command hcommand

/-- **All through.** Then what stands is what was asked for, in whatever order. -/
theorem finished_standing {events : List (ι × Unit)} {c : Config ι Broker Client}
    (hrun : run (fire (send goes_on)) (start commands) events = some c) (hup : ∀ i, (c.locals i).Up)
    (command : Command) : c.shared.Standing command ↔ ∃ i, command ∈ commands i := by
  obtain ⟨hasked, hstanding⟩ := reached_standing hrun
  constructor
  · exact hasked command
  · rintro ⟨i, hcommand⟩
    exact hstanding i (hup i) command hcommand

/-! ## 4. Who is refused -/

/-- A client that nobody interrupts gets through or is refused, and the others stand where
they stood. The induction is on what it has left. -/
theorem run_alone (i : ι) : ∀ (left : List Command) (c : Config ι Broker Client),
    c.locals i = ⟨left, false⟩ →
    ∃ events c', run (fire (send goes_on)) c events = some c'
      ∧ (∀ j, j ≠ i → c'.locals j = c.locals j)
      ∧ ((c'.locals i).Up ∨ (c'.locals i).refused = true) := by
  intro left
  induction left with
  | nil => exact fun c hi => ⟨[], c, rfl, fun _ _ => rfl, .inl hi⟩
  | cons command left ih =>
      intro c hi
      cases hobey : c.shared.obey command with
      | none =>
          refine ⟨[(i, ())], ⟨c.shared, Function.update c.locals i
            ⟨if goes_on i command then left else [], true⟩⟩, ?_, ?_, ?_⟩
          · simp [run, fire, send, hi, hobey]
          · intro j hj
            exact Function.update_of_ne hj _ _
          · exact .inr (by simp)
      | some b =>
          obtain ⟨events, c', hrun, hothers, hend⟩ :=
            ih ⟨b, Function.update c.locals i ⟨left, false⟩⟩ (by simp)
          refine ⟨(i, ()) :: events, c', ?_, fun j hj => ?_, hend⟩
          · rw [run_cons_eq_some]
            refine ⟨_, ?_, hrun⟩
            simp [fire, send, hi, hobey]
          · rw [hothers j hj]
            exact Function.update_of_ne hj _ _

/-- Each binding comes after the declarations of its exchange and its queue, where those
commands were sent before. -/
def PreparedAfter : List Command → List Command → Prop
  | _, [] => True
  | sent, command :: left =>
    (∀ binding, command = .bind binding →
      (∃ type, .declare_exchange binding.exchange type ∈ sent)
        ∧ ∃ arguments, .declare_queue binding.queue arguments ∈ sent)
      ∧ PreparedAfter (sent ++ [command]) left

def Prepared (sending : List Command) : Prop := PreparedAfter [] sending

theorem PreparedAfter.binding {binding : Binding} {left : List Command} :
    ∀ {front sent : List Command}, PreparedAfter sent (front ++ .bind binding :: left) →
      (∃ type, .declare_exchange binding.exchange type ∈ sent ++ front)
        ∧ ∃ arguments, .declare_queue binding.queue arguments ∈ sent ++ front := by
  intro front
  induction front with
  | nil =>
      intro sent h
      rw [List.append_nil]
      exact h.1 binding rfl
  | cons command front ih =>
      intro sent h
      rw [List.append_cons]
      exact ih h.2

/-- Commands that bind nothing need no preparation. -/
theorem preparedAfter_append {rest : List Command} :
    ∀ {front sent : List Command}, (∀ binding, .bind binding ∉ front) →
      PreparedAfter (sent ++ front) rest → PreparedAfter sent (front ++ rest) := by
  intro front
  induction front with
  | nil =>
      intro sent _ h
      rwa [List.append_nil] at h
  | cons command front ih =>
      intro sent hfront h
      refine ⟨?_, ih (fun binding hmem => hfront binding (List.mem_cons_of_mem _ hmem)) ?_⟩
      · rintro binding rfl
        exact absurd List.mem_cons_self (hfront binding)
      · rwa [← List.append_cons]

omit [DecidableEq ι] in
/-- Where no two clients disagree, the next command of any is accepted. -/
theorem next_accepted (hprepared : ∀ i, Prepared (commands i))
    (hagree : ∀ i j, ∀ command ∈ commands i, ∀ other ∈ commands j, command.Agrees other)
    {c : Config ι Broker Client} (hholds : Holds (Asked commands) (Sent commands) c)
    {i : ι} {command : Command} {left : List Command} (hi : (c.locals i).left = command :: left)
    (hnever : (c.locals i).refused = false) : ∃ b, c.shared.obey command = some b := by
  obtain ⟨hasked, hsent⟩ := hholds
  obtain ⟨sent, hcommands, hstanding⟩ := hsent i
  rw [hi] at hcommands
  have hmem : command ∈ commands i := by
    rw [hcommands]
    simp
  apply Broker.obey_allowed
  cases command with
  | declare_exchange name type =>
      cases htype : c.shared.exchange_type name with
      | none => exact .inl htype
      | some declared =>
          obtain ⟨j, hj⟩ := hasked (.declare_exchange name declared) htype
          have hsame : declared = type := hagree j i _ hj _ hmem rfl
          exact .inr (hsame ▸ htype)
  | declare_queue name arguments =>
      cases hdeclared : c.shared.arguments name with
      | none => exact .inl hdeclared
      | some declared =>
          obtain ⟨j, hj⟩ := hasked (.declare_queue name declared) hdeclared
          have hsame : declared = arguments := hagree j i _ hj _ hmem rfl
          exact .inr (hsame ▸ hdeclared)
  | bind binding =>
      -- the client's own declarations stand by now
      have hprepared' := hprepared i
      rw [Prepared, hcommands] at hprepared'
      obtain ⟨⟨type, htype⟩, arguments, harguments⟩ := hprepared'.binding
      have hexchange : c.shared.exchange_type binding.exchange = some type :=
        hstanding hnever _ htype
      have hqueue : c.shared.arguments binding.queue = some arguments :=
        hstanding hnever _ harguments
      exact ⟨by rw [hexchange]; rfl, by rw [hqueue]; rfl⟩

/-- Where no two clients disagree, no order of sending gets one refused. -/
theorem never_refused (hprepared : ∀ i, Prepared (commands i))
    (hagree : ∀ i j, ∀ command ∈ commands i, ∀ other ∈ commands j, command.Agrees other)
    {events : List (ι × Unit)} {c : Config ι Broker Client}
    (hrun : run (fire (send goes_on)) (start commands) events = some c) (i : ι) :
    (c.locals i).refused = false := by
  have hinv : Holds (Asked commands) (Sent commands) c ∧ ∀ i, (c.locals i).refused = false := by
    apply run_inv (fire (send goes_on)) _ ⟨start_holds commands, fun _ => rfl⟩ hrun
    rintro c e c' ⟨hholds, hnone⟩ hfire
    refine ⟨((send_outline goes_on commands).fire hholds hfire trivial).1, fun j => ?_⟩
    obtain ⟨b', client', hsend, rfl⟩ := fire_eq_some.mp hfire
    by_cases hj : j = e.1
    · subst hj
      obtain ⟨command, left, hlocal, ⟨-, rfl⟩ | ⟨hrefused, -, -⟩⟩ := send_cases hsend
      · simp [hnone e.1]
      · obtain ⟨b, hobey⟩ := next_accepted hprepared hagree hholds hlocal (hnone e.1)
        rw [hobey] at hrefused
        simp at hrefused
    · simp only [Function.update_of_ne hj]
      exact hnone j
  exact hinv.2 i

/-- Where no order gets a client refused, any two can be brought up: the one alone, then the
other. -/
theorem two_up (hnever : ∀ events c, run (fire (send goes_on)) (start commands) events = some c →
      ∀ i, (c.locals i).refused = false) (i j : ι) :
    ∃ events c, run (fire (send goes_on)) (start commands) events = some c
      ∧ (c.locals i).Up ∧ (c.locals j).Up := by
  obtain ⟨first, c₁, hfirst, hkept, hend⟩ := run_alone i (commands i) (start commands) rfl
  have hup : (c₁.locals i).Up := by
    rcases hend with hup | hrefused
    · exact hup
    · simp [hnever first c₁ hfirst i] at hrefused
  by_cases hj : j = i
  · exact ⟨first, c₁, hfirst, hup, hj ▸ hup⟩
  · obtain ⟨second, c₂, hsecond, hkept₂, hend₂⟩ := run_alone j (commands j) c₁ (hkept j hj)
    have hrun : run (fire (send goes_on)) (start commands) (first ++ second) = some c₂ := by
      rw [run_append, hfirst]
      exact hsecond
    refine ⟨first ++ second, c₂, hrun, ?_, ?_⟩
    · rw [Client.Up, hkept₂ i (Ne.symm hj)]
      exact hup
    · rcases hend₂ with hup₂ | hrefused
      · exact hup₂
      · simp [hnever _ c₂ hrun j] at hrefused

/-- **Who is refused.** Clients that declare before they bind can come up in any order
exactly when no command of one disagrees with a command of another, or of its own. -/
theorem never_refused_iff (hprepared : ∀ i, Prepared (commands i)) :
    (∀ events c, run (fire (send goes_on)) (start commands) events = some c →
        ∀ i, (c.locals i).refused = false)
      ↔ ∀ i j, ∀ command ∈ commands i, ∀ other ∈ commands j, command.Agrees other := by
  constructor
  · intro hnever i j command hcommand other hother
    -- both stand once both clients are through
    obtain ⟨events, c, hrun, hi, hj⟩ := two_up hnever i j
    have hstanding := (reached_standing hrun).2
    exact Broker.standing_agrees (hstanding i hi command hcommand) (hstanding j hj other hother)
  · exact fun hagree events c hrun => never_refused hprepared hagree hrun

/-- Where no two clients disagree, every reached state can be carried on until all of them
are through. -/
theorem can_finish [Finite ι] (hprepared : ∀ i, Prepared (commands i))
    (hagree : ∀ i j, ∀ command ∈ commands i, ∀ other ∈ commands j, command.Agrees other)
    {events : List (ι × Unit)} {c : Config ι Broker Client}
    (hrun : run (fire (send goes_on)) (start commands) events = some c) :
    ∃ more c', run (fire (send goes_on)) c more = some c' ∧ ∀ i, (c'.locals i).Up := by
  have := Fintype.ofFinite ι
  -- one client after another, each alone; those that are through stay so
  have hsome : ∀ clients : List ι, ∃ more c', run (fire (send goes_on)) c more = some c'
      ∧ ∀ i ∈ clients, (c'.locals i).Up := by
    intro clients
    induction clients with
    | nil => exact ⟨[], c, rfl, by simp⟩
    | cons i clients ih =>
        obtain ⟨more, c₁, hmore, hup⟩ := ih
        have hreached : run (fire (send goes_on)) (start commands) (events ++ more) = some c₁ := by
          rw [run_append, hrun]
          exact hmore
        obtain ⟨own, c₂, hown, hkept, hend⟩ := run_alone i (c₁.locals i).left c₁ (by
          rw [← never_refused hprepared hagree hreached i])
        refine ⟨more ++ own, c₂, by rw [run_append, hmore]; exact hown, fun j hj => ?_⟩
        have hreached₂ : run (fire (send goes_on)) (start commands) (events ++ more ++ own)
            = some c₂ := by
          rw [run_append, hreached]
          exact hown
        by_cases hsame : j = i
        · subst hsame
          rcases hend with hup | hrefused
          · exact hup
          · simp [never_refused hprepared hagree hreached₂ j] at hrefused
        · rw [Client.Up, hkept j hsame]
          exact hup j ((List.mem_cons.mp hj).resolve_left hsame)
  obtain ⟨more, c', hmore, hup⟩ := hsome Finset.univ.toList
  exact ⟨more, c', hmore, fun i => hup i (by simp)⟩

end Clients

end TradeLogistics.Amqp
