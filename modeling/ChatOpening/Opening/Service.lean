import ChatOpening.MessageId
import ChatOpening.Opening.Conversation
import ChatOpening.Opening.Templates
import ChatOpening.Provider.Config

/-!
# Opening a chat

The service answers a request with the three first messages of the coordinator: the welcome, the briefing and the call
to action, in this order. It fails if one of their templates is missing, and the first one that is missing is
reported. Random identifiers are an argument; the message at position `n` is named by the identifier `ids n`.

The service may hold a client for completions, which the messages do not use.
-/

namespace ChatOpening

/-- Why a chat cannot be opened. -/
structure OpeningFault where
  template : TemplatesFault
  deriving DecidableEq, Repr

def OpeningFault.message (f : OpeningFault) : String :=
  s!"intro template error: {f.template.message}"

/-- The templates of a service and the client that it holds. -/
structure OpeningService where
  client : Option Client
  templates : IntroTemplates
  deriving DecidableEq

namespace OpeningService

/-- Who speaks first. -/
def coordinator : Character :=
  { id := 1, name := "AI Coordinator", avatar := none }

/-- The skill of a chat that the backend has not assigned one to. -/
def placeholderSkill : Int64 := 1

/-- The simulation of a chat that the backend has not assigned one to. -/
def placeholderSimulation : Int64 := 1

/-- The contents of the first messages. -/
def contents (t : IntroTemplates) (r : OpeningRequest) : Except TemplatesFault (List String) := do
  let welcome ← t.welcome r.user.name r.simulation.name r.simulation.topics
  let briefing ← t.briefing r.simulation.description
  let callToAction ← t.callToAction
  return [welcome, briefing, callToAction]

/-- Messages of the coordinator with the given contents. -/
def messages (ids : Nat → Uuid) (contents : List String) : List Message :=
  contents.mapIdx fun n content => Conversation.textMessage (MessageId.ofUuid (ids n)) coordinator content

/-- The members that describe a request and the number of its messages. -/
def metadata (r : OpeningRequest) (count : Nat) : List (String × Json.Value) :=
  putEntry "messages_count" (.number (.integer count)) <|
    putEntry "user" (.text r.user.name) <|
      putEntry "simulation" (.text r.simulation.name) []

/-- The response with the given messages. -/
def respond (r : OpeningRequest) (messages : List Message) : OpeningResponse :=
  { chat :=
      { chatId := none
        skillId := placeholderSkill
        simulationId := placeholderSimulation
        messages
        success := true }
    metadata := metadata r messages.length }

/-- What is logged when a chat is to be opened. -/
def started (r : OpeningRequest) : Journal.Record :=
  Journal.info .opening s!"Generating initial chat messages for simulation: {r.simulation.name}"

/-- What is logged when a chat cannot be opened. -/
def failed (fault : OpeningFault) : Journal.Record :=
  Journal.error .opening s!"Chat initialization failed: {fault.message}"

/-- Opens a chat. -/
def openChat (s : OpeningService) (ids : Nat → Uuid) (r : OpeningRequest) :
    Journal.Logged OpeningFault OpeningResponse :=
  match contents s.templates r with
  | .ok texts => (.ok (respond r (messages ids texts)), [started r])
  | .error fault => (.error ⟨fault⟩, [started r, failed ⟨fault⟩])

end OpeningService

end ChatOpening
