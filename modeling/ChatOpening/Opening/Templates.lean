import ChatOpening.FileTree
import ChatOpening.Journal
import ChatOpening.Template
import ChatOpening.Json.Schema

/-!
# Intro templates

The templates of the first messages, by name. They are built in or come from a JSON file with one field,
`intro_templates`, whose members are the templates. The welcome and the briefing are filled; the call to action is
taken as it stands. Any of them may be missing, which shows when its message is wanted.
-/

namespace ChatOpening

structure IntroTemplates where
  templates : Dictionary String
  deriving DecidableEq

/-- The messages that templates exist for. -/
inductive TemplateName where
  | welcome
  | briefing
  | callToAction
  deriving DecidableEq, Repr

/-- The key of a template. -/
def TemplateName.key : TemplateName → String
  | .welcome => "welcome"
  | .briefing => "briefing"
  | .callToAction => "call_to_action"

/-- Why templates cannot be had. -/
inductive TemplatesFault where
  | missing (name : TemplateName)
  | unreadable (fault : FileFault)
  | malformed (report : Json.Report)
  deriving DecidableEq, Repr

/-- The words for a reason. -/
def TemplatesFault.message : TemplatesFault → String
  | .missing name => s!"Prompt template 'intro_templates:{name.key}' not found"
  | .unreadable fault => s!"Prompt file IO error: {fault.message}"
  | .malformed report => s!"Prompt JSON parsing error: {report.message}"

namespace IntroTemplates

def builtInWelcome : String :=
  "Welcome \x7buser_name\x7d! I'm your AI Coordinator, and I'm excited to guide you through today's " ++
  "'\x7bsimulation_name\x7d' simulation. In this scenario, you'll have the opportunity to practice " ++
  "\x7bvariables\x7d in a realistic workplace setting."

def builtInBriefing : String :=
  "Here's your scenario: \x7bsimulation_description\x7d Take your time to read through the situation and think " ++
  "about how you'd like to approach it."

def builtInCallToAction : String :=
  "Are you ready to begin? Please let me know how you'd like to start approaching this situation."

/-- The templates that are used if no file is given. -/
def builtIn : IntroTemplates :=
  ⟨.ofList [
    (TemplateName.welcome.key, builtInWelcome),
    (TemplateName.briefing.key, builtInBriefing),
    (TemplateName.callToAction.key, builtInCallToAction)]⟩

def schema : Json.Schema :=
  .record "PromptConfig" <| .field "intro_templates" .dictionary .none

instance : Json.Described IntroTemplates where
  schema := schema
  toCarrier t := (t.templates, ())
  ofCarrier := fun (templates, ()) => { templates }
  ofCarrier_toCarrier _ := rfl

/-- The templates in a JSON text. -/
def ofText (source : String) : Except TemplatesFault IntroTemplates :=
  match Json.decode IntroTemplates (Text.bytes source) with
  | .ok templates => .ok templates
  | .error report => .error (.malformed report)

/-- The templates in a JSON file, and what is logged. -/
def load (files : Files) (path : String) : Journal.Logged TemplatesFault IntroTemplates :=
  match files.text path with
  | .error fault => (.error (.unreadable fault), [])
  | .ok source =>
    match ofText source with
    | .error fault => (.error fault, [])
    | .ok templates =>
      (.ok templates,
        [Journal.info .templates s!"Loaded {templates.templates.size} intro templates from '{path}'"])

/-- The template of a message. -/
def find (t : IntroTemplates) (name : TemplateName) : Except TemplatesFault String :=
  match t.templates.get? name.key with
  | some template => .ok template
  | none => .error (.missing name)

/-- How many topics of a simulation the welcome mentions. -/
def welcomeTopics : Nat := 2

/-- The topics that the welcome mentions, as it mentions them. -/
def mentioned (topics : List String) : String :=
  String.intercalate ", " (topics.take welcomeTopics)

def welcomeValues (userName simulationName : String) (topics : List String) : Template.Values :=
  [("user_name", userName), ("simulation_name", simulationName), ("variables", mentioned topics)]

def briefingValues (description : String) : Template.Values :=
  [("simulation_description", description)]

def welcome (t : IntroTemplates) (userName simulationName : String) (topics : List String) :
    Except TemplatesFault String :=
  match t.find .welcome with
  | .ok template => .ok (Template.fill (welcomeValues userName simulationName topics) template)
  | .error fault => .error fault

def briefing (t : IntroTemplates) (description : String) : Except TemplatesFault String :=
  match t.find .briefing with
  | .ok template => .ok (Template.fill (briefingValues description) template)
  | .error fault => .error fault

def callToAction (t : IntroTemplates) : Except TemplatesFault String :=
  t.find .callToAction

end IntroTemplates

end ChatOpening
