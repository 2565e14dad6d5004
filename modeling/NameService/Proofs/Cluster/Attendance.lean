import Mathlib.Data.List.Induction
import NameService.Cluster
import NameService.Proofs.Fleet.Calls

/-!
# Storage nodes that stay registered

The agent of a storage node and the fleet of the Primary know little of each
other: members are removed by sweeps, a Primary starts with an empty fleet, and
requests and answers get lost. Still the agent sends a heartbeat exactly while
its last registration stands unrefused, it sends at most two requests a tick,
and behind a tick whose requests were all answered its node is a member that was
heard of in this tick.
-/

namespace NameService

/-- A request of an agent, and how it ended. -/
structure Exchange where
  call : AgentCall
  reply : AgentReply
  deriving DecidableEq

namespace Exchange

/-- The last registration of an agent was answered, and no heartbeat since was
refused. -/
def Admitted (exchanges : List Exchange) : Prop :=
  ∃ earlier since, exchanges = earlier ++ ⟨.register, .accepted⟩ :: since ∧
    ∀ exchange ∈ since, exchange.call = .heartbeat ∧
    exchange.reply ≠ .notRegistered

/-- Each request was a heartbeat exactly if the node was admitted by those
before. -/
def Due (exchanges : List Exchange) : Prop :=
  ∀ earlier exchange later, exchanges = earlier ++ exchange :: later →
    (exchange.call = .heartbeat ↔ Admitted earlier)

theorem not_admitted_nil : ¬ Admitted [] := by
  rintro ⟨earlier, since, split, -⟩
  exact List.cons_ne_nil _ _ (List.append_eq_nil_iff.mp split.symm).2

/-- A registration decides whether the node is admitted. -/
theorem admitted_append_register
    (exchanges : List Exchange)
    (reply : AgentReply) :
    Admitted (exchanges ++ [⟨.register, reply⟩]) ↔ reply = .accepted := by
  constructor
  · rintro ⟨earlier, since, split, heartbeats⟩
    cases since using List.reverseRecOn with
    | nil =>
        have last := List.append_inj_right' split rfl
        simpa using last
    | append_singleton since last =>
        rw [← List.cons_append, ← List.append_assoc] at split
        have same := List.append_inj_right' split rfl
        have isHeartbeat := (heartbeats last (by simp)).1
        rw [← List.singleton_inj.mp same] at isHeartbeat
        cases isHeartbeat
  · rintro rfl
    exact ⟨exchanges, [], rfl, by simp⟩

/-- A heartbeat leaves the node admitted unless it is refused. -/
theorem admitted_append_heartbeat
    (exchanges : List Exchange)
    (reply : AgentReply) :
    Admitted (exchanges ++ [⟨.heartbeat, reply⟩]) ↔
      Admitted exchanges ∧ reply ≠ .notRegistered := by
  constructor
  · rintro ⟨earlier, since, split, heartbeats⟩
    cases since using List.reverseRecOn with
    | nil =>
        have last := List.append_inj_right' split rfl
        cases List.singleton_inj.mp last
    | append_singleton since last =>
        rw [← List.cons_append, ← List.append_assoc] at split
        obtain ⟨front, same⟩ := List.append_inj' split rfl
        refine ⟨⟨earlier, since, front,
          fun exchange present => heartbeats exchange (by simp [present])⟩, ?_⟩
        have notRefused := (heartbeats last (by simp)).2
        rwa [← List.singleton_inj.mp same] at notRefused
  · rintro ⟨⟨earlier, since, rfl, heartbeats⟩, notRefused⟩
    refine ⟨earlier, since ++ [⟨.heartbeat, reply⟩], by simp,
      fun exchange present => ?_⟩
    rcases List.mem_append.mp present with before | last
    · exact heartbeats exchange before
    · rw [List.mem_singleton.mp last]
      exact ⟨rfl, notRefused⟩

theorem Due.append
    {exchanges : List Exchange}
    (due : Due exchanges)
    {exchange : Exchange}
    (next : exchange.call = .heartbeat ↔ Admitted exchanges) :
    Due (exchanges ++ [exchange]) := by
  intro earlier present later split
  cases later using List.reverseRecOn with
  | nil =>
      obtain ⟨front, same⟩ := List.append_inj' split rfl
      rwa [← front, ← List.singleton_inj.mp same]
  | append_singleton later last =>
      rw [← List.cons_append, ← List.append_assoc] at split
      exact due earlier present later (List.append_inj_left' split rfl)

end Exchange

namespace Agent

/-- What an agent believes is whether its node is admitted, and it has sent what
was due. -/
structure Follows (agent : Agent) (exchanges : List Exchange) : Prop where
  believes : agent.registered = true ↔ Exchange.Admitted exchanges
  due : Exchange.Due exchanges

theorem follows_start : start.Follows [] where
  believes := iff_of_false Bool.false_ne_true Exchange.not_admitted_nil
  due earlier exchange later split := by
    cases (List.append_eq_nil_iff.mp split.symm).2

variable {agent : Agent} {exchanges : List Exchange}

/-- An agent follows whatever reply comes to the request that it sends next. -/
theorem Follows.reply (follows : agent.Follows exchanges) (reply : AgentReply) :
    (agent.afterReply agent.nextCall reply).Follows
      (exchanges ++ [⟨agent.nextCall, reply⟩]) := by
  have believes := follows.believes
  cases agent with
  | mk registered =>
      cases registered with
      | true =>
          have admitted := believes.mp rfl
          refine ⟨?_, follows.due.append (iff_of_true rfl admitted)⟩
          refine Iff.trans ?_
            (Exchange.admitted_append_heartbeat exchanges reply).symm
          cases reply <;> simp [afterReply, nextCall, admitted]
      | false =>
          have notAdmitted : ¬ Exchange.Admitted exchanges :=
            mt believes.mpr Bool.false_ne_true
          refine ⟨?_,
            follows.due.append (iff_of_false (by simp [nextCall]) notAdmitted)⟩
          refine Iff.trans ?_
            (Exchange.admitted_append_register exchanges reply).symm
          cases reply <;> simp [afterReply, nextCall]

end Agent

namespace Cluster

/-! ## Answers -/

variable {cluster : Cluster} {id : NodeId} {now : Nat}

/-- Where no request arrives, none is answered. -/
theorem answerAgent_of_unreached
    {start : Nat}
    (unreached : cluster.reaches start = false)
    (now : Nat)
    (id : NodeId)
    (call : AgentCall) :
    answerAgent start now id cluster call = (cluster, .failed) := by
  cases call <;> simp [answerAgent, ask, Cluster.call, unreached]

/-- A registration that arrives makes the node a member, heard of at the
time. -/
theorem answerAgent_register
    {start : Nat}
    (reached : cluster.reaches start = true)
    {primary : Primary}
    (runs : cluster.primary = some primary)
    (now : Nat)
    (id : NodeId) :
    answerAgent start now id cluster .register =
      ({ cluster with primary := some (primary.register id now) },
        .accepted) := by
  simp [answerAgent, ask, Cluster.call, reached, Remote.ask, runs,
    Remote.register, Except.mapError]

/-- A heartbeat that arrives is accepted from members, and refused otherwise. -/
theorem answerAgent_heartbeat
    {start : Nat}
    (reached : cluster.reaches start = true)
    {primary : Primary}
    (runs : cluster.primary = some primary)
    (now : Nat)
    (id : NodeId) :
    answerAgent start now id cluster .heartbeat =
      ({ cluster with primary := some (primary.heartbeat id now).1 },
        if primary.fleet.contains id then .accepted else .notRegistered) := by
  simp only [answerAgent, ask, Cluster.call, reached, Remote.ask, runs,
    Remote.heartbeat, Primary.heartbeat, if_true]
  cases known : primary.fleet.get? id with
  | some member =>
      have present : primary.fleet.contains id = true := by
        rw [Fleet.contains, known]; rfl
      rw [present, Fleet.heartbeat_of_get? known]
      rfl
  | none =>
      have absent : primary.fleet.contains id = false := by
        rw [Fleet.contains, known]; rfl
      rw [absent, Fleet.heartbeat_of_missing known]
      rfl

/-- A Primary that is reached runs. -/
theorem exists_primary_of_reaches
    {start : Nat}
    (reached : cluster.reaches start = true) :
    ∃ primary, cluster.primary = some primary ∧ primary.closed = false := by
  cases runs : cluster.primary with
  | none => simp [reaches, runs] at reached
  | some primary =>
      refine ⟨primary, rfl, ?_⟩
      simp only [reaches, runs, Bool.and_eq_true] at reached
      simpa using reached.2

/-- The Primary has a storage node for a member that was heard of last at a
time. -/
def Hears (cluster : Cluster) (id : NodeId) (time : Nat) : Prop :=
  ∃ primary member, cluster.primary = some primary ∧
    primary.fleet.get? id = some member ∧
    member.lastHeartbeat = time

/-- What comes of a request: it does not arrive, or it is accepted and the
Primary has heard of the node, or it is a heartbeat and refused. -/
theorem answerAgent_cases
    (start now : Nat)
    (id : NodeId)
    (cluster : Cluster)
    (call : AgentCall) :
    let answered := answerAgent start now id cluster call
    cluster.reaches start = false ∧ answered = (cluster, .failed) ∨
      answered.2 = .accepted ∧ answered.1.Hears id now ∨
      answered.2 = .notRegistered ∧ call = .heartbeat := by
  cases reached : cluster.reaches start with
  | false => exact .inl ⟨rfl, answerAgent_of_unreached reached now id call⟩
  | true =>
      refine .inr ?_
      obtain ⟨primary, runs, -⟩ := exists_primary_of_reaches reached
      cases call with
      | register =>
          rw [answerAgent_register reached runs]
          exact .inl ⟨rfl, _, _, rfl, Fleet.get?_register_self _ id now, rfl⟩
      | heartbeat =>
          rw [answerAgent_heartbeat reached runs]
          cases known : primary.fleet.get? id with
          | none => exact .inr ⟨by simp [Fleet.contains, known], rfl⟩
          | some member =>
              refine .inl ⟨by simp [Fleet.contains, known], _,
                { member with lastHeartbeat := now }, rfl, ?_, rfl⟩
              show (primary.fleet.heartbeat id now).1.get? id = _
              rw [Fleet.get?_heartbeat, known, Option.map_some,
                if_pos (Fleet.mem_of_get? known).2]

/-- A Primary that is reached answers, and is reached again. -/
theorem answerAgent_of_reached
    (reached : cluster.reaches cluster.starts = true)
    (now : Nat)
    (id : NodeId)
    (call : AgentCall) :
    let answered := answerAgent cluster.starts now id cluster call
    answered.2 ≠ .failed ∧ answered.1.reaches answered.1.starts = true := by
  obtain ⟨primary, runs, isOpen⟩ := exists_primary_of_reaches reached
  have connected : cluster.connected = true := by
    simp only [reaches, Bool.and_eq_true] at reached
    exact reached.1.1
  cases call with
  | register =>
      rw [answerAgent_register reached runs]
      exact ⟨nofun, by simp [reaches, connected, Primary.register, isOpen]⟩
  | heartbeat =>
      rw [answerAgent_heartbeat reached runs]
      exact ⟨by dsimp only; split <;> nofun,
        by simp [reaches, connected, Primary.heartbeat, isOpen]⟩

/-! ## What happens around an agent -/

/-- What becomes of a request on its way, and of its answer. -/
inductive Passage
  | answered
  /-- The request does not arrive. -/
  | lost
  /-- The request arrives, and its answer does not. -/
  | unanswered

/-- What else happens to a Primary. -/
inductive Incident
  /-- Its fleet is called: by other nodes, by clients, by one half of a sweep,
  or by a request that its sender has given up long ago. -/
  | call (call : Fleet.Call)
  /-- Its fleet is swept. -/
  | sweep (now : Nat)
  /-- It is asked to shut down. -/
  | shutdown
  /-- It crashes. -/
  | crash
  /-- A new process is started in its place, without members. -/
  | start (settings : Settings)

/-- A cluster behind an incident. -/
def befall (cluster : Cluster) : Incident → Cluster
  | .call call =>
      { cluster with
        primary := cluster.primary.map fun primary =>
          { primary with fleet := primary.fleet.after call } }
  | .sweep now => (cluster.evictStale now).1
  | .shutdown => (cluster.ask cluster.starts Remote.shutdown).1
  | .crash => cluster.crashPrimary
  | .start settings => (cluster.startPrimary settings).1

/-- What an agent acts on in a tick. -/
structure Surroundings where
  cluster : Cluster
  /-- What happens in front of each further request, and what becomes of the
  request. Requests beyond these are lost. -/
  ahead : List (List Incident × Passage)
  /-- The requests that were sent. -/
  exchanges : List Exchange

/-- Nothing happens in front of the requests of a tick, and all are answered. -/
def undisturbed : List (List Incident × Passage) :=
  [([], .answered), ([], .answered)]

/-- Send a request of the agent of a storage node at a time. It goes to the
process of the Primary that runs when it arrives. -/
def carry
    (now : Nat)
    (id : NodeId)
    (surroundings : Surroundings)
    (call : AgentCall) :
    Surroundings × AgentReply :=
  let (incidents, passage) := surroundings.ahead.headD ([], .lost)
  let cluster := incidents.foldl befall surroundings.cluster
  let (answered, reply) := answerAgent cluster.starts now id cluster call
  let (cluster, reply) :=
    match passage with
    | .answered => (answered, reply)
    | .lost => (cluster, .failed)
    | .unanswered => (answered, .failed)
  (⟨cluster, surroundings.ahead.tail,
    surroundings.exchanges ++ [⟨call, reply⟩]⟩, reply)

/-- What becomes of a request: it is written down, the node is a member heard of
at the time if it was accepted, and only heartbeats are refused. -/
structure Carries
    (now : Nat)
    (id : NodeId)
    (before : Surroundings)
    (call : AgentCall)
    (after : Surroundings) (reply : AgentReply) : Prop where
  noted : after.exchanges = before.exchanges ++ [⟨call, reply⟩]
  accepted : reply = .accepted → after.cluster.Hears id now
  refused : reply = .notRegistered → call = .heartbeat

theorem carry_carries
    (now : Nat)
    (id : NodeId)
    (surroundings : Surroundings)
    (call : AgentCall) :
    Carries now id surroundings call (carry now id surroundings call).1
      (carry now id surroundings call).2 := by
  obtain ⟨cluster, ahead, exchanges⟩ := surroundings
  cases isAhead : ahead.headD ([], .lost) with
  | mk incidents passage =>
      cases passage with
      | answered =>
          simp only [carry, isAhead]
          rcases answerAgent_cases _ now id _ call with
            ⟨-, unanswered⟩ | ⟨accepted, hears⟩ | ⟨refused, isHeartbeat⟩
          · rw [unanswered]
            exact ⟨rfl, nofun, nofun⟩
          · rw [accepted]
            exact ⟨rfl, fun _ => hears, nofun⟩
          · rw [refused]
            exact ⟨rfl, nofun, fun _ => isHeartbeat⟩
      | lost =>
          simp only [carry, isAhead]
          exact ⟨rfl, nofun, nofun⟩
      | unanswered =>
          simp only [carry, isAhead]
          exact ⟨rfl, nofun, nofun⟩

end Cluster

/-! ## Ticks -/

namespace Agent

variable {σ : Type}

/-- A tick is one request, or a heartbeat that is refused and the registration
behind it. -/
theorem tick_cases
    (send : σ → AgentCall → σ × AgentReply)
    (agent : Agent)
    (surroundings : σ) :
    callsAgain agent.nextCall (send surroundings agent.nextCall).2 = false ∧
        agent.tick send surroundings =
          (agent.afterReply agent.nextCall (send surroundings agent.nextCall).2,
            (send surroundings agent.nextCall).1) ∨
      agent.nextCall = .heartbeat ∧
        (send surroundings .heartbeat).2 = .notRegistered ∧
        agent.tick send surroundings =
          (afterReply ⟨false⟩ .register
            (send (send surroundings .heartbeat).1 .register).2,
            (send (send surroundings .heartbeat).1 .register).1) := by
  cases isNext : agent.nextCall with
  | register =>
      refine .inl ⟨by cases (send surroundings .register).2 <;> rfl, ?_⟩
      simp only [tick, act, isNext, callsAgain]
  | heartbeat =>
      cases isReply : (send surroundings .heartbeat).2 with
      | accepted =>
          exact .inl
            ⟨rfl, by simp only [tick, act, isNext, isReply, callsAgain]⟩
      | failed =>
          exact .inl
            ⟨rfl, by simp only [tick, act, isNext, isReply, callsAgain]⟩
      | notRegistered =>
          refine .inr ⟨rfl, rfl, ?_⟩
          simp only [tick, act, isNext, isReply, callsAgain, afterReply]
          rfl

end Agent

namespace Cluster

variable {id : NodeId} {now : Nat}

/-- What the requests of a tick do: there are at most two of them, the agent
sleeps behind the last one only, and if all were answered, then its node is a
member heard of in this tick. -/
structure Ticks
    (now : Nat)
    (id : NodeId)
    (sent : List Exchange)
    (after : Cluster) : Prop where
  few : sent.length ≤ 2
  sleeps : ∃ front last, sent = front ++ [last] ∧
    Agent.callsAgain last.call last.reply = false ∧
      ∀ exchange ∈ front, Agent.callsAgain exchange.call exchange.reply = true
  hears : (∀ exchange ∈ sent, exchange.reply ≠ .failed) → after.Hears id now

/-- Behind a last request that was answered the Primary has heard of the
node. -/
theorem Carries.hears
    {before after : Surroundings}
    {call : AgentCall}
    {reply : AgentReply}
    (carries : Carries now id before call after reply)
    (isLast : Agent.callsAgain call reply = false)
    (answered : reply ≠ .failed) :
    after.cluster.Hears id now := by
  cases reply with
  | accepted => exact carries.accepted rfl
  | failed => exact absurd rfl answered
  | notRegistered =>
      rw [carries.refused rfl] at isLast
      cases isLast

/-- An agent follows what becomes of the requests of its tick. -/
theorem tick_follows
    {agent : Agent}
    {surroundings : Surroundings}
    (follows : agent.Follows surroundings.exchanges) :
    let ticked := agent.tick (carry now id) surroundings
    ticked.1.Follows ticked.2.exchanges ∧
      ∃ sent, ticked.2.exchanges = surroundings.exchanges ++ sent ∧
        Ticks now id sent ticked.2.cluster := by
  have first := carry_carries now id surroundings agent.nextCall
  have followsFirst :=
    follows.reply (carry now id surroundings agent.nextCall).2
  rw [← first.noted] at followsFirst
  rcases Agent.tick_cases (carry now id) agent surroundings with
    ⟨isLast, ticked⟩ | ⟨isHeartbeat, refused, ticked⟩
  · rw [ticked]
    refine ⟨followsFirst, _, first.noted, by simp,
      ⟨[], _, rfl, isLast, by simp⟩, fun answered => ?_⟩
    exact first.hears isLast (answered _ List.mem_cons_self)
  · rw [isHeartbeat, refused] at first followsFirst
    have second :=
      carry_carries now id (carry now id surroundings .heartbeat).1 .register
    rw [ticked]
    generalize carry now id (carry now id surroundings .heartbeat).1 .register =
      last at second ⊢
    obtain ⟨after, reply⟩ := last
    -- An agent whose heartbeat was refused registers next.
    have followsSecond : (Agent.afterReply ⟨false⟩ .register reply).Follows
        (_ ++ [⟨.register, reply⟩]) := followsFirst.reply reply
    rw [← second.noted] at followsSecond
    refine ⟨followsSecond, [⟨.heartbeat, .notRegistered⟩, ⟨.register, reply⟩],
      ?_, by simp,
      ⟨[⟨.heartbeat, .notRegistered⟩], ⟨.register, reply⟩, rfl, rfl, ?_⟩,
      fun answered => ?_⟩
    · rw [second.noted, first.noted, List.append_assoc]
      rfl
    · simp [Agent.callsAgain]
    · exact second.hears rfl (answered ⟨.register, reply⟩ (by simp))

/-- In an undisturbed tick a Primary that is reached hears of the node. -/
theorem tick_hears
    {cluster : Cluster}
    (reached : cluster.reaches cluster.starts = true)
    (agent : Agent)
    (exchanges : List Exchange) :
    (agent.tick (carry now id)
      ⟨cluster, undisturbed, exchanges⟩).2.cluster.Hears id now := by
  have answered := answerAgent_of_reached reached now id
  have first := carry_carries now id ⟨cluster, undisturbed, exchanges⟩
  rcases Agent.tick_cases (carry now id) agent
    ⟨cluster, undisturbed, exchanges⟩ with
    ⟨isLast, ticked⟩ | ⟨-, -, ticked⟩
  · rw [ticked]
    exact (first agent.nextCall).hears isLast (answered agent.nextCall).1
  · have again :=
      answerAgent_of_reached (answered .heartbeat).2 now id .register
    have second := carry_carries now id
      (carry now id ⟨cluster, undisturbed, exchanges⟩ .heartbeat).1 .register
    rw [ticked]
    exact second.hears rfl again.1

/-! ## Runs -/

/-- A cluster and the agent of a storage node. -/
structure Watch where
  cluster : Cluster
  agent : Agent
  /-- The requests that the agent has sent. -/
  exchanges : List Exchange

namespace Watch

/-- What happens in front of a watch. -/
inductive Event
  /-- Something happens to the Primary while the agent sleeps. -/
  | incident (incident : Incident)
  /-- The agent ticks at a time. -/
  | tick (now : Nat) (ahead : List (List Incident × Passage))

/-- A watch behind an event. -/
def step (id : NodeId) (watch : Watch) : Event → Watch
  | .incident incident =>
      { watch with cluster := watch.cluster.befall incident }
  | .tick now ahead =>
      let ticked :=
        watch.agent.tick (carry now id) ⟨watch.cluster, ahead, watch.exchanges⟩
      ⟨ticked.2.cluster, ticked.1, ticked.2.exchanges⟩

/-- The watch of a cluster with an agent that starts in it, behind a sequence of
events. -/
def run (id : NodeId) (cluster : Cluster) (events : List Event) : Watch :=
  events.foldl (step id) ⟨cluster, .start, []⟩

variable {watch : Watch}

theorem step_follows
    (follows : watch.agent.Follows watch.exchanges)
    (event : Event) :
    (watch.step id event).agent.Follows (watch.step id event).exchanges := by
  cases event with
  | incident incident => exact follows
  | tick now ahead => exact (tick_follows follows).1

theorem run_follows (id : NodeId) (cluster : Cluster) (events : List Event) :
    (run id cluster events).agent.Follows
      (run id cluster events).exchanges := by
  induction events using List.reverseRecOn with
  | nil => exact Agent.follows_start
  | append_singleton events event hypothesis =>
      rw [run, List.foldl_append]
      exact step_follows hypothesis event

/-- Whatever happens to the Primary and to requests on their way, an agent sends
a heartbeat exactly if its last registration was answered and no heartbeat since
was refused. Each tick sends at most two requests, and if all of them are
answered, as they are by a Primary that is reached, then the node is a member
heard of in this tick. -/
theorem run_attends (id : NodeId) (cluster : Cluster) (events : List Event) :
    let watch := run id cluster events
    Exchange.Due watch.exchanges ∧
      (∀ now ahead, ∃ sent,
        (watch.step id (.tick now ahead)).exchanges = watch.exchanges ++ sent ∧
          Ticks now id sent (watch.step id (.tick now ahead)).cluster) ∧
      ∀ now, watch.cluster.reaches watch.cluster.starts = true →
        (watch.step id (.tick now undisturbed)).cluster.Hears id now := by
  intro watch
  have follows : watch.agent.Follows watch.exchanges :=
    run_follows id cluster events
  exact ⟨follows.due, fun now ahead => (tick_follows follows).2,
    fun now reached => tick_hears reached watch.agent watch.exchanges⟩

/-- An agent that registers, is evicted, loses an answer, and outlives its
Primary. -/
def trials : List Event :=
  [.tick 10 undisturbed, .incident (.start (Settings.ofDirectory "d")),
    .tick 20 undisturbed, .incident (.call (.register ⟨"10.0.0.2", "b"⟩ 30)),
    .incident (.sweep 90021),
    .tick 90030 [([], .answered), ([.call (.allocate 7 1)], .unanswered)],
    .tick 90040 undisturbed, .tick 90050 undisturbed, .tick 90060 [],
    .incident .crash, .incident (.start (Settings.ofDirectory "d"))]

/-- Its requests, and the tick that follows. -/
theorem run_attends_trials :
    let watch := run ⟨"10.0.0.1", "a"⟩ (Cluster.new Disk.empty true) trials
    watch.exchanges =
        [⟨.register, .failed⟩, ⟨.register, .accepted⟩,
          ⟨.heartbeat, .notRegistered⟩, ⟨.register, .failed⟩,
          ⟨.register, .accepted⟩, ⟨.heartbeat, .accepted⟩,
          ⟨.heartbeat, .failed⟩] ∧
      (watch.step ⟨"10.0.0.1", "a"⟩ (.tick 90070 undisturbed)).exchanges =
        watch.exchanges ++
          [⟨.heartbeat, .notRegistered⟩, ⟨.register, .accepted⟩] ∧
      Exchange.Due watch.exchanges ∧
      (watch.step ⟨"10.0.0.1", "a"⟩ (.tick 90070 undisturbed)).cluster.Hears
        ⟨"10.0.0.1", "a"⟩ 90070 := by
  have attends :=
    run_attends ⟨"10.0.0.1", "a"⟩ (Cluster.new Disk.empty true) trials
  exact ⟨by decide +kernel, by decide +kernel, attends.1,
    attends.2.2 90070 (by decide +kernel)⟩

end Watch
end Cluster
end NameService
