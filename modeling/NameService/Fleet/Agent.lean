/-!
# The storage-node agent

Keeps one storage node registered. In each tick the agent registers, if it does
not believe to be registered, or sends a heartbeat. A heartbeat that is answered
as not registered is followed by a registration within the same tick.
-/

namespace NameService

/-- What an agent asks of the Primary. -/
inductive AgentCall
  | register
  | heartbeat
  deriving DecidableEq, Repr

/-- How a call of an agent ends. -/
inductive AgentReply
  /-- The Primary accepted the call. -/
  | accepted
  /-- The Primary does not know the node. -/
  | notRegistered
  /-- The call failed in transit or was answered by another error. -/
  | failed
  deriving DecidableEq, Repr

/-- An agent, by what it believes. -/
structure Agent where
  /-- Whether the agent takes its node for registered. -/
  registered : Bool
  deriving DecidableEq, Repr

namespace Agent

/-- An agent that has just started. -/
def start : Agent := ⟨false⟩

/-- The call that an agent makes next. -/
def nextCall (agent : Agent) : AgentCall :=
  if agent.registered then .heartbeat else .register

/-- What an agent believes after a call. -/
def afterReply (agent : Agent) : AgentCall → AgentReply → Agent
  | .register, .accepted => ⟨true⟩
  | .heartbeat, .notRegistered => ⟨false⟩
  | _, _ => agent

/-- Whether an agent makes another call in the same tick. -/
def callsAgain : AgentCall → AgentReply → Bool
  | .heartbeat, .notRegistered => true
  | _, _ => false

/-- Make the call that is due. The surroundings answer it. -/
def act
    (send : σ → AgentCall → σ × AgentReply)
    (agent : Agent)
    (surroundings : σ) :
    Agent × σ × Bool :=
  let call := agent.nextCall
  let (surroundings, reply) := send surroundings call
  (agent.afterReply call reply, surroundings, callsAgain call reply)

/-- One tick between two sleeps. -/
def tick
    (send : σ → AgentCall → σ × AgentReply)
    (agent : Agent)
    (surroundings : σ) : Agent × σ :=
  match agent.act send surroundings with
  | (agent, surroundings, false) => (agent, surroundings)
  | (agent, surroundings, true) =>
      let (agent, surroundings, _) := agent.act send surroundings
      (agent, surroundings)

end Agent
end NameService
