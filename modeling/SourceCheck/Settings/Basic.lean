import SourceCheck.Language.Basic

/-!
Process-wide settings: the language, and which origins may call which route of the service.
-/

namespace SourceCheck

structure ServiceSettings where
  /-- The allowed origins of each route. The origin `*` stands for any. -/
  cors : List (String × List String)
  deriving DecidableEq, Repr

structure Settings where
  language : Language
  service : ServiceSettings
  deriving DecidableEq, Repr

namespace ServiceSettings

def standard : ServiceSettings := ⟨[("/lex", ["*"]), ("/validate", ["*"])]⟩

/-- The origin to name in the answer to a request for `route`, when the request is allowed. -/
def allowedOrigin? (s : ServiceSettings) (route : String) (origin : Option String) :
    Option String := do
  let origins ← s.cors.lookup route
  if "*" ∈ origins then return "*"
  let caller ← origin
  if caller ∈ origins then return caller else none

end ServiceSettings

namespace Settings

def standard : Settings := ⟨.standard, .standard⟩

end Settings

end SourceCheck
